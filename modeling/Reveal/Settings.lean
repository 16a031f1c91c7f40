import Reveal.Scalar
import Reveal.Run

/-!
# Reveal — window settings

The title and the sizes of a window and the label of its checkbox. All of them
have defaults, and each can be set on its own.

* `Settings.apply` — one edit; the other fields stay;
* `Settings.numEq` — equality of settings, sizes compared as numbers;
* `Settings.viewport` — what the toolkit is told.
-/

namespace Reveal

/-- What can be chosen about a window. -/
structure Settings where
  title : String := "My App"
  label : String := "Show document text"
  size : Size := ⟨.ofNat 480, .ofNat 320⟩
  minSize : Size := ⟨.ofNat 200, .ofNat 80⟩
deriving DecidableEq, Repr

namespace Settings

/-- The settings of a window about which nothing was chosen. -/
def standard : Settings := {}

instance : Inhabited Settings := ⟨standard⟩

/-- A choice of one of the settings. -/
inductive Edit where
  | title (text : String)
  | label (text : String)
  | size (size : Size)
  | minSize (size : Size)
deriving DecidableEq, Repr

def apply (s : Settings) : Edit → Settings
  | .title text => { s with title := text }
  | .label text => { s with label := text }
  | .size size => { s with size := size }
  | .minSize size => { s with minSize := size }

/-- The standard settings after some choices, the last of each kind winning. -/
def ofEdits (edits : List Edit) : Settings := edits.foldl apply standard

/-- The settings after each of the edits. -/
def trace (s : Settings) (edits : List Edit) : List Settings :=
  (Run.trace (fun s e => (s.apply e, ())) s edits).map Prod.fst

/-- Equality of settings, with sizes compared as pairs of numbers. Settings with
a NaN among them do not even equal themselves. -/
def numEq (a b : Settings) : Bool :=
  a.title == b.title && a.label == b.label && a.size.numEq b.size && a.minSize.numEq b.minSize

/-- What the toolkit is told about a new window. -/
structure Viewport where
  title : String
  size : Size
  minSize : Size
deriving DecidableEq, Repr

/-- The part of the settings that concerns the toolkit. -/
def viewport (s : Settings) : Viewport := ⟨s.title, s.size, s.minSize⟩

end Settings

end Reveal
