/-!
# Reveal — log events

What the program reports about its own work. An event has a level, a target (the
component that reports it), some values with names, and a message. A log filter
selects events by their level, their target and the names.

* `Level` — the five levels, `error` being the most severe;
* `Event` — the events there are;
* `Event.line` — an event as a line of the log.
-/

namespace Reveal

inductive Level where
  | error | warn | info | debug | trace
deriving DecidableEq, Repr

namespace Level

/-- How verbose a log must be to show the level. -/
def verbosity : Level → Nat
  | error => 1
  | warn => 2
  | info => 3
  | debug => 4
  | trace => 5

/-- The level as it stands in a line of the log. -/
def tag : Level → String
  | error => "ERROR"
  | warn => "WARN"
  | info => "INFO"
  | debug => "DEBUG"
  | trace => "TRACE"

end Level

inductive Event where
  /-- The command line brought a text of so many bytes. -/
  | textReceived (bytes : Nat)
  /-- A window is being made for a document of that size. -/
  | buildingWindow (bytes lines : Nat)
  /-- The toolkit is about to be started for the window with that title. -/
  | startingLoop (title : String)
  /-- The pane took over the state of the checkbox. -/
  | visibilityUpdated (checked : Bool)
deriving DecidableEq, Repr

namespace Event

def level : Event → Level
  | startingLoop _ => .info
  | textReceived _ | buildingWindow _ _ | visibilityUpdated _ => .debug

/-- The component that reports the event. -/
def target : Event → String
  | textReceived _ => "textpeek"
  | buildingWindow _ _ | visibilityUpdated _ => "textpeek_core::window"
  | startingLoop _ => "textpeek_viz::host"

/-- The names of what the event carries, its words among them. -/
def fields : Event → List String
  | textReceived _ => ["message", "bytes"]
  | buildingWindow _ _ => ["message", "bytes", "lines"]
  | startingLoop _ => ["message", "title"]
  | visibilityUpdated _ => ["message", "checked"]

/-- The event in words, with its values. -/
def message : Event → String
  | textReceived bytes => s!"text argument received bytes={bytes}"
  | buildingWindow bytes lines => s!"building document window bytes={bytes} lines={lines}"
  | startingLoop title => s!"starting event loop title={title}"
  | visibilityUpdated checked => s!"viewer visibility updated checked={checked}"

/-- The event as a line of the log, without a line end. -/
def line (e : Event) : String := e.level.tag ++ " " ++ e.message

end Event

end Reveal
