import Reveal.Scalar
import Reveal.Document
import Reveal.Event
import Reveal.Checkbox

/-!
# Reveal — the pane, and how it follows the checkbox

A `Pane` holds the document, whether it can be seen, and how far it is scrolled.
Hiding it changes neither the document nor the scroll offset.

Only the delivery of a `Change` makes a pane visible or hides it. The delivered
change must agree with the checkbox it comes from: a notification that has been
overtaken by a later change, or that was made up, is refused before anything is
done (`Mismatch`).

* `Pane.deliver` — the delivery of one change;
* `Mismatch.message` — the complaint about a change that does not agree.
-/

namespace Reveal

/-- The area that shows a document. -/
structure Pane where
  document : Document
  visible : Bool := false
  scroll : Offset := .origin
deriving DecidableEq, Repr

/-- A delivered change that contradicts the checkbox. -/
structure Mismatch where
  /-- What the change says. -/
  told : Bool
  /-- What the checkbox says. -/
  checked : Bool
deriving DecidableEq, Repr

/-- The complaint about a contradiction. -/
def Mismatch.message (m : Mismatch) : String :=
  s!"assertion `left == right` failed\n  left: {m.told}\n right: {m.checked}"

/-- Delivers a change of `checkbox` to the pane, which takes over the state of
the checkbox and logs that it did. A change that says something else than the
checkbox is refused. -/
def Pane.deliver (pane : Pane) (checkbox : Checkbox) (change : Change) :
    Except Mismatch (Pane × List Event) :=
  if change.checked = checkbox.isChecked then
    .ok ({ pane with visible := checkbox.isChecked }, [.visibilityUpdated checkbox.isChecked])
  else
    .error ⟨change.checked, checkbox.isChecked⟩

end Reveal
