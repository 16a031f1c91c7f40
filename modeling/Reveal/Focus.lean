import Reveal.Widget
import Reveal.Input

/-!
# Reveal — the keyboard focus

At most one widget has the focus. Tab passes it to the next one that takes it, in
the order in which they are drawn, after the last one to the first; Escape and a
click beside the widget take it away, and a widget that is not drawn any more
loses it.

While a frame is drawn, each widget in turn asks for the focus (`Turn.offer`). So
passing it on takes until the next frame if the widget that gives it up is the
last one.

* `Focus.begin` — the beginning of a frame;
* `Turn.offer` — a widget is drawn;
* `Turn.finish` — the end of the frame.
-/

namespace Reveal

open Widget (Name)

/-- The keyboard focus between two frames. -/
structure Focus where
  /-- What has it. -/
  holder : Option Name := none
  /-- Whether it was given up for the next widget to take. -/
  passing : Bool := false
deriving DecidableEq, Repr

/-- The keyboard focus while a frame is drawn. -/
structure Focus.Turn where
  holder : Option Name
  passing : Bool
  /-- What had it at the end of the frame before. -/
  before : Option Name
  /-- Whether Tab was pressed and has not had its effect yet. -/
  advancing : Bool
deriving DecidableEq, Repr

namespace Focus

/-- Begins a frame in which that key, if any, goes down. -/
def begin (f : Focus) (key : Option Key) : Turn :=
  { holder := if key = some .escape then none else f.holder
    passing := f.passing
    before := f.holder
    advancing := key = some .tab }

namespace Turn

/-- A widget that takes the focus is drawn. -/
def offer (t : Turn) (name : Name) : Turn :=
  if ¬ name.takesFocus then t
  else if t.passing ∧ t.before ≠ some name then
    { t with holder := some name, passing := false }
  else if t.holder = some name then
    if t.advancing then { t with holder := none, passing := true, advancing := false } else t
  else if t.advancing ∧ t.holder = none ∧ ¬ t.passing then
    { t with holder := some name, advancing := false }
  else t

/-- Some widgets are drawn, one after the other. -/
def offerAll (t : Turn) (names : List Name) : Turn := names.foldl offer t

/-- Ends the frame, which drew `drawn`. `leaves` tells what a click takes the focus
away from. -/
def finish (t : Turn) (drawn : List Name) (leaves : Name → Bool) : Focus :=
  let holder := t.holder.filter fun name => !leaves name
  { holder := holder.filter fun name => decide (name ∈ drawn) || t.before != some name
    passing := t.passing }

end Turn

end Focus

end Reveal
