import Reveal.Run
import Reveal.Rounding
import Reveal.Scalar
import Reveal.Geometry
import Reveal.Document
import Reveal.Event
import Reveal.Checkbox
import Reveal.Pane
import Reveal.Channel
import Reveal.Settings
import Reveal.Window
import Reveal.Roster
import Reveal.Blank
import Reveal.Glyph
import Reveal.Layout
import Reveal.Input
import Reveal.Clock
import Reveal.Pointer
import Reveal.Widget
import Reveal.Grip
import Reveal.Focus
import Reveal.Fade
import Reveal.ScrollBar
import Reveal.Track
import Reveal.Selection
import Reveal.ScrollArea
import Reveal.Session
import Reveal.Terminal
import Reveal.Argument
import Reveal.CommandLine
import Reveal.Alphanumeric
import Reveal.Pattern.Basic
import Reveal.Pattern.Reader
import Reveal.Pattern
import Reveal.LogFilter
import Reveal.Launch
import Reveal.Main
import Reveal.Proofs.Channel
import Reveal.Proofs.Rounding
import Reveal.Proofs.Scalar
import Reveal.Proofs.Layout
import Reveal.Proofs.Session
import Reveal.Proofs.Rest
import Reveal.Proofs.Scroll
import Reveal.Proofs.Reach
import Reveal.Proofs.Updates
import Reveal.Proofs.Keyboard
import Reveal.Proofs.Extent
import Reveal.Proofs.Return
import Reveal.Proofs.Press
import Reveal.Proofs.Click
import Reveal.Proofs.Alike
import Reveal.Proofs.Replay
import Reveal.Proofs.Mirror
import Reveal.Proofs.Row
import Reveal.Proofs.Course
import Reveal.Proofs.Quiet
import Reveal.Proofs.Near
import Reveal.Proofs.Coupled
import Reveal.Proofs.Apart
import Reveal.Proofs.Control
import Reveal.Proofs.History
import Reveal.Proofs.Lineage
import Reveal.Proofs.Canonical
import Reveal.Proofs.Ending
import Reveal.Proofs.Logging
import Reveal.Proofs.Unmoved
import Reveal.Proofs.Stored
import Reveal.Proofs.Settling
import Reveal.Proofs.Hyphens
import Reveal.Proofs.Refusal
import Reveal.Proofs.Lines
import Reveal.Proofs.Equality
import Reveal.Proofs.Choice
