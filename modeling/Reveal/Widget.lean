import Reveal.Geometry

/-!
# Reveal — widgets

The things on the screen that answer to the pointer or the keyboard, and which of
them the pointer is on. A frame remembers the widgets that it drew, from back to
front, and the next frame finds out by them what the pointer meets.

The pointer need not be exactly on a widget: if it is on none that could answer,
the nearest one within a few points is taken. A small widget that floats on a
large one is preferred to it also where the pointer just misses it.

* `Widget.Name` — the widgets there are;
* `Widget.hit` — which of them a click and a drag at a point would go to.
-/

namespace Reveal

namespace Widget

/-- What there is on the screen. -/
inductive Name where
  /-- The background of the pane, by which the text can be dragged. It is there
  only while there is something to scroll. -/
  | area
  /-- The text itself, which can be selected. -/
  | text
  /-- The scroll bar along an axis. -/
  | bar (axis : Axis)
  /-- The checkbox. Below the pane it is not the same widget as alone. -/
  | checkbox (belowPane : Bool)
deriving DecidableEq, Repr

namespace Name

/-- Whether it answers to a click. -/
def takesClicks : Name → Bool
  | area => false
  | text | bar _ | checkbox _ => true

/-- Whether it answers to a drag. -/
def takesDrags : Name → Bool
  | checkbox _ => false
  | area | text | bar _ => true

/-- Whether it can have the keyboard focus. -/
def takesFocus : Name → Bool
  | text => false
  | area | bar _ | checkbox _ => true

end Name

end Widget

/-- A widget where a frame drew it, less what lies outside the screen. -/
structure Widget where
  name : Widget.Name
  bounds : Rect
deriving DecidableEq, Repr

namespace Widget

attribute [local instance (2000)] Rat.instMin

/-- How far from the pointer a widget may be, at most. -/
def reach : Rat := 5

/-- How far the pointer is from it, squared. -/
def distanceSq (w : Widget) (p : Point) : Rat := w.bounds.distanceSq p

/-- Whether the shorter side is so short that it is hard to hit, and so much
shorter than that of `front` that the larger one can spare the place. -/
def isSlim (back front : Widget) : Bool :=
  let side (w : Widget) := min w.bounds.width w.bounds.height
  decide (2 * side back ≤ side front) && decide (side back ≤ 16)

/-- Whether the pointer prefers `front` to `back`, over which it was drawn: if it
is nearer, and if it is as near unless `back` is slim and not all covered. -/
def outdoes (p : Point) (back front : Widget) : Bool :=
  decide (front.distanceSq p < back.distanceSq p) ||
    (front.distanceSq p == back.distanceSq p &&
      (front.bounds.covers back.bounds || !back.isSlim front))

/-- The widget that is nearest to the pointer, of equally near ones as a rule the
one in front. -/
def nearest (p : Point) (widgets : List Widget) : Option Widget :=
  widgets.foldl (fun best w =>
    match best with
    | none => some w
    | some back => if outdoes p back w then some w else best) none

/-- What a click and what a drag would go to. -/
structure Hit where
  click : Option Name := none
  drag : Option Name := none
deriving DecidableEq, Repr

namespace Hit

/-- All that a widget answers to goes to it. -/
def all (w : Widget) : Hit :=
  ⟨if w.name.takesClicks then some w.name else none,
    if w.name.takesDrags then some w.name else none⟩

end Hit

/-- The pointer is on `big`, which answers only to drags, and `close` are the
widgets near it. A smaller one that lies on `big` is preferred. -/
def hitBackground (p : Point) (close : List Widget) (big : Widget) : Hit :=
  match nearest p (close.filter (·.name.takesClicks)) with
  | some small =>
    if big.bounds.covers small.bounds then
      ⟨some small.name, some (if small.name.takesDrags then small.name else big.name)⟩
    else ⟨none, some big.name⟩
  | none =>
    match nearest p (close.filter fun w => w.name.takesDrags && w.name != big.name) with
    | some small => ⟨none, some (if big.bounds.covers small.bounds then small.name else big.name)⟩
    | none => ⟨none, some big.name⟩

/-- What a click and what a drag at a point would go to, where `widgets` are drawn
from back to front. -/
def hit (widgets : List Widget) (p : Point) : Hit :=
  let close := widgets.filter fun w =>
    !w.bounds.isInverted && decide (w.distanceSq p ≤ reach * reach)
  let under := close.filter fun w => w.distanceSq p == 0
  match nearest p (under.filter (·.name.takesClicks)),
      nearest p (under.filter (·.name.takesDrags)) with
  | none, none =>
    match nearest p close with
    | some w => Hit.all w
    | none => {}
  | none, some big => hitBackground p close big
  | some small, none => ⟨some small.name, none⟩
  | some c, some d =>
    if close.idxOf d < close.idxOf c then
      -- The widget to click is in front.
      ⟨some c.name, some (if c.name.takesDrags then c.name else d.name)⟩
    else
      ⟨if d.name.takesClicks then some d.name else none, some d.name⟩

end Widget

end Reveal
