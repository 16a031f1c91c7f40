import Reveal.Scalar

/-!
# Reveal — geometry

Points and rectangles on the screen. Coordinates grow to the right and down. The
coordinates of a point are stored numbers; the sides of a rectangle are exact, so
that distances can be compared without rounding.

* `Point.sub` — the way from one point to another;
* `Rect.meet` — the common part of two rectangles, which may turn out inverted;
* `Rect.distanceSq` — how far a point is from a rectangle.
-/

namespace Reveal

/-- A direction of the screen. -/
inductive Axis where
  | x | y
deriving DecidableEq, Repr

def Axis.other : Axis → Axis
  | x => y
  | y => x

/-- A point on the screen, or the way from one point to another. -/
structure Point where
  x : Scalar
  y : Scalar
deriving DecidableEq, Repr

namespace Point

/-- The upper left corner of the screen, or no way at all. -/
def zero : Point := ⟨.zero, .zero⟩

instance : Inhabited Point := ⟨zero⟩

/-- One of the coordinates. -/
def along (p : Point) : Axis → Scalar
  | .x => p.x
  | .y => p.y

/-- The way to `a` from `b`. -/
protected def sub (a b : Point) : Point := ⟨a.x - b.x, a.y - b.y⟩

instance : Sub Point := ⟨Point.sub⟩

/-- The square of the distance of two points. -/
def distanceSq (a b : Point) : Rat :=
  let dx := a.x.toRat - b.x.toRat
  let dy := a.y.toRat - b.y.toRat
  dx * dx + dy * dy

end Point

structure Rect where
  left : Rat
  top : Rat
  right : Rat
  bottom : Rat
deriving DecidableEq, Repr

namespace Rect

-- The maximum and the minimum of rational numbers are those of the core library.
attribute [local instance (2000)] Rat.instMax Rat.instMin

/-- The rectangle of a given size with its upper left corner at a given place. -/
def ofCorner (left top width height : Rat) : Rect := ⟨left, top, left + width, top + height⟩

def width (r : Rect) : Rat := r.right - r.left

def height (r : Rect) : Rat := r.bottom - r.top

/-- Whether two opposite sides have changed places, so that there is nothing
between them. A rectangle of no height or no width is not inverted. -/
def isInverted (r : Rect) : Bool := decide (r.right < r.left) || decide (r.bottom < r.top)

/-- The common part of two rectangles; inverted if there is none. -/
def meet (a b : Rect) : Rect :=
  ⟨max a.left b.left, max a.top b.top, min a.right b.right, min a.bottom b.bottom⟩

/-- The rectangle with each side moved outwards. -/
def grow (r : Rect) (margin : Rat) : Rect :=
  ⟨r.left - margin, r.top - margin, r.right + margin, r.bottom + margin⟩

/-- Whether `b` lies in `a`. -/
def covers (a b : Rect) : Bool :=
  decide (a.left ≤ b.left) && decide (b.right ≤ a.right) &&
    decide (a.top ≤ b.top) && decide (b.bottom ≤ a.bottom)

/-- Whether a point lies in the rectangle or on its sides. -/
def contains (r : Rect) (p : Point) : Bool :=
  decide (r.left ≤ p.x.toRat) && decide (p.x.toRat ≤ r.right) &&
    decide (r.top ≤ p.y.toRat) && decide (p.y.toRat ≤ r.bottom)

/-- Whether two rectangles have a point in common. -/
def touches (a b : Rect) : Bool :=
  decide (a.left ≤ b.right) && decide (b.left ≤ a.right) &&
    decide (a.top ≤ b.bottom) && decide (b.top ≤ a.bottom)

/-- How far the number `v` is from the interval between `low` and `high`. -/
def distanceAlong (low high v : Rat) : Rat :=
  if v < low then low - v else if high < v then v - high else 0

/-- The square of the distance from a point to the nearest point of the
rectangle, which is itself if it lies inside. -/
def distanceSq (r : Rect) (p : Point) : Rat :=
  let dx := distanceAlong r.left r.right p.x.toRat
  let dy := distanceAlong r.top r.bottom p.y.toRat
  dx * dx + dy * dy

def center (r : Rect) : Point :=
  ⟨.ofRat ((r.left + r.right) / 2), .ofRat ((r.top + r.bottom) / 2)⟩

end Rect

end Reveal
