import Reveal.CommandLine
import Reveal.LogFilter
import Reveal.Window

/-!
# Reveal — launching the program

What a run of the program amounts to where no window can be opened: the command
line is read, the log filter is set up, the document window is made, and the
toolkit gives up.

* `Failure` — why the program did not get to show its window;
* `Outcome` — what a run leaves behind;
* `launch` — the run.
-/

namespace Reveal

/-- Why an accepted command line did not lead to a window. -/
inductive Failure where
  /-- There is no text to show. -/
  | missingText
  /-- The toolkit could not start. -/
  | toolkit (reason : String)
deriving DecidableEq, Repr

namespace Failure

/-- The failure in words. -/
def message : Failure → String
  | missingText => "missing required argument <TEXT>: the text to display"
  | toolkit reason => "GUI toolkit error: " ++ reason

/-- The exit code that reports the failure. A missing text is a mistake in the
command line and has the code of those. -/
def exitCode : Failure → Nat
  | missingText => 2
  | toolkit _ => 1

end Failure

/-- What a run leaves behind. -/
structure Outcome where
  exitCode : Nat
  stdout : String := ""
  /-- Written to the standard error output before anything is logged. -/
  notices : String := ""
  /-- The events that reach the log. -/
  events : List Event := []
  /-- Written to the standard error output at the end. -/
  complaint : String := ""
deriving DecidableEq, Repr

/-- All that is written to the standard error output, without the log. -/
def Outcome.stderr (o : Outcome) : String := o.notices ++ o.complaint

def usageLine : String := "Usage: textpeek [OPTIONS] [TEXT]"

def helpText : String :=
  "Show one block of text in a desktop window behind a show/hide checkbox\n\n" ++
  usageLine ++ "\n\n" ++
  "Arguments:\n" ++
  "  [TEXT]  The text to display (may be empty)\n\n" ++
  "Options:\n" ++
  "  -v, --verbose  Enable verbose output\n" ++
  "  -q, --quiet    Suppress all output except errors\n" ++
  "  -h, --help     Print help\n" ++
  "  -V, --version  Print version\n"

def versionLine : String := "textpeek 0.1.0\n"

/-- The first paragraph of a text, with the end of its last line. -/
def firstParagraph (s : String) : String :=
  String.ofList (cut s.toList) ++ "\n"
where
  /-- What stands before the first empty line. -/
  cut : List Char → List Char
    | '\n' :: '\n' :: _ => []
    | c :: rest => c :: cut rest
    | [] => []

/-- What is reported of arguments that cannot be accepted, where there is no
terminal to show colours: the first paragraph, which an empty line in a quoted
argument ends. -/
def UsageError.report (error : UsageError) : String :=
  firstParagraph (Terminal.plain ("error: " ++ error.message))

/-- What an early end of the reading leaves behind. -/
def Stop.outcome : Stop → Outcome
  | help => { exitCode := 0, stdout := helpText }
  | version => { exitCode := 0, stdout := versionLine }
  | rejected error => { exitCode := 2, complaint := error.report }

/-- The threshold that the flags choose, for a log filter without directives. -/
def Invocation.threshold (i : Invocation) : Threshold :=
  if i.quiet then .upTo .error else if i.verbose then .upTo .debug else .upTo .warn

/-- The events of a run that gets as far as the toolkit, before the filter. -/
def startEvents (settings : Settings) (document : Document) : List Event :=
  let (window, events) := Window.build settings document
  .textReceived document.byteLength :: events ++ [.startingLoop window.title]

/-- What an accepted command line leaves behind. `reason` is why the toolkit
cannot start, `filterText` the written log filter. -/
def Invocation.outcome (i : Invocation) (reason filterText : String) : Outcome :=
  let notices := LogFilter.notices filterText
  match i.text with
  | none =>
    { exitCode := Failure.missingText.exitCode
      notices := notices
      complaint := "error: " ++ Failure.missingText.message ++ "\n\n" ++ usageLine ++ "\n" }
  | some text =>
    let failure := Failure.toolkit reason
    { exitCode := failure.exitCode
      notices := notices
      events := (startEvents .standard ⟨text⟩).filter
        (LogFilter.read filterText i.threshold).passes
      complaint := "error: failed to show the document window: " ++ failure.message ++ "\n" }

/-- Runs the program with the given arguments where the toolkit cannot start. -/
def launch (reason filterText : String) (args : List Argument) : Outcome :=
  match CommandLine.parse args with
  | .error stop => stop.outcome
  | .ok invocation => invocation.outcome reason filterText

end Reveal
