import Reveal.Widget
import Reveal.Pointer

/-!
# Reveal — the grip

What the pointer has a hold of. A press takes hold of the widgets that it hits,
one for a click and one for a drag, and the release lets go of them; what lies
between decides which of the two it was. A widget that answers only to drags is
dragged from the press on, one that answers to both not before a click is ruled
out.

* `Grip` — what is held;
* `Grip.update` — what the pointer does to it in a frame;
* `Touch` — what the widgets learn of that in the frame;
* `Hand` — the pointer in a frame, with its grip.
-/

namespace Reveal

open Widget (Name Hit)

/-- What the pointer has a hold of. -/
structure Grip where
  /-- What will be clicked, if this becomes a click. -/
  click : Option Name := none
  /-- What will be dragged, if this becomes a drag. -/
  drag : Option Name := none
  /-- What is being dragged. -/
  dragged : Option Name := none
deriving DecidableEq, Repr

/-- What the widgets learn of the pointer in a frame. -/
structure Touch where
  /-- What the frame's release has clicked. -/
  clicked : Option Name := none
  /-- What was dragged up to the frame before. -/
  dropped : Option Name := none
  /-- What the pointer is on, or would deal with; it may be several widgets that lie on
  each other. -/
  met : List Name := []
  /-- The same, as far as a widget may answer: what a click or a drag would go to, and
  while something is clicked or dragged, only that. -/
  under : List Name := []
deriving DecidableEq, Repr

namespace Grip

/-- A press takes hold of what it hits, where nothing is held yet. -/
def seize (g : Grip) (hit : Hit) : Grip :=
  { g with click := g.click.or hit.click, drag := g.drag.or hit.drag }

/-- Begins to drag what is held for it, if nothing is dragged yet and it is time
to. -/
def startDrag (g : Grip) (drawn : List Name) (certain : Bool) : Grip :=
  match g.dragged, g.drag with
  | none, some name =>
    if name ∈ drawn ∧ (certain ∨ ¬ name.takesClicks) then { g with dragged := some name } else g
  | _, _ => g

/-- What the pointer does in a frame. `drawn` are the widgets of the frame before,
`hit` is what the pointer is on among them. A widget that has gone cannot be
clicked any more, and Escape ends a drag. -/
def update (g : Grip) (drawn : List Name) (hit : Hit) (pointer : Pointer) (now : Rat)
    (stroke : Stroke) (escape : Bool) : Grip × Touch :=
  let before := g.dragged
  let g := { g with click := g.click.filter (· ∈ drawn) }
  let g := if escape then { g with drag := none, dragged := none } else g
  let g := if stroke.pressed then g.seize hit else g
  let clicked := if stroke.clicked then g.click else none
  let g := if stroke.released.isSome then {} else g
  let g := g.startDrag drawn (pointer.isDragging now stroke)
  let busy := pointer.isDown || stroke.released.isSome
  let g := if pointer.mayClick now busy then g else { g with click := none }
  let g := if pointer.isDown then g else { g with click := none, drag := none }
  let dropped := if g.dragged = before then none else before
  let held := clicked.toList ++ g.dragged.toList
  let under := if held.isEmpty then hit.click.toList ++ hit.drag.toList else held
  (g, { clicked := clicked, dropped := dropped, under := under })

end Grip

/-- The pointer in a frame, with all that follows from where it is. -/
structure Hand where
  pointer : Pointer
  stroke : Stroke
  grip : Grip
  touch : Touch
deriving DecidableEq, Repr

namespace Hand

/-- The pointer in a frame with a given input. `drawn` are the widgets that the
frame before drew, `place` is the point that the input's target stands for. -/
def take (pointer : Pointer) (grip : Grip) (drawn : List Widget) (now : Rat)
    (place : Option Point) (input : Input) : Hand :=
  let (pointer, stroke) := pointer.take now place input
  let hit := pointer.position.elim {} (Widget.hit drawn)
  let (grip, touch) := grip.update (drawn.map (·.name)) hit pointer now stroke
    (input.key? == some .escape)
  let beneath := pointer.position.elim [] fun place =>
    (drawn.filter fun w => !w.bounds.isInverted && w.bounds.contains place).map (·.name)
  { pointer, stroke, grip
    touch := { touch with met := beneath ++ hit.click.toList ++ hit.drag.toList } }

/-- Whether the pointer deals with a widget in this frame: it is held, or it was
clicked or dragged just now. -/
def engages (h : Hand) (name : Name) : Bool :=
  h.grip.click == some name || h.grip.drag == some name || h.touch.clicked == some name ||
    h.touch.dropped == some name

/-- Whether the pointer is on a widget. While a button is down it is on nothing
but what it deals with. -/
def isOn (h : Hand) (name : Name) : Bool :=
  h.touch.under.contains name && (!h.pointer.isDown || h.engages name)

/-- Whether a widget was clicked with the primary button. -/
def clicks (h : Hand) (name : Name) : Bool :=
  h.touch.clicked == some name && h.stroke.released == some .primary

/-- Whether something else than the widget was clicked, or nothing at all. -/
def clicksBeside (h : Hand) (name : Name) : Bool := h.stroke.clicked && !h.isOn name

end Hand

end Reveal
