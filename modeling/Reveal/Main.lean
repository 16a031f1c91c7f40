import Reveal.Launch

/-!
# Reveal — the command

The program itself. It takes the written log filter from the environment, and
there is no display on which it could open its window.
-/

/-- Runs the command line and prints what the run leaves behind. -/
def main (args : List String) : IO UInt32 := do
  let filterText := (← IO.getEnv "RUST_LOG").getD ""
  let outcome := Reveal.launch "no display is available" filterText
    (args.map Reveal.Argument.ofString)
  IO.print outcome.stdout
  IO.eprint outcome.notices
  for event in outcome.events do
    IO.eprintln event.line
  IO.eprint outcome.complaint
  return UInt32.ofNat outcome.exitCode
