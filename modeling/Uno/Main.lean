import Uno.Program

/-!
# The command line program

The setting of the log comes from the environment. Lines are printed to the standard output; the log, the
causes of a failure and the usage after a mistake go to the standard error.
-/

/-- Runs the program on its command line and reports the outcome. -/
def main (arguments : List String) : IO UInt32 := do
  let setting ← IO.getEnv "RUST_LOG"
  let outcome := Uno.Program.run setting arguments
  for line in outcome.log do
    IO.eprintln line
  IO.print outcome.stdout
  unless outcome.causes.isEmpty do
    IO.eprintln "Error:"
    for (place, cause) in (List.range outcome.causes.length).zip outcome.causes do
      IO.eprintln ("   " ++ toString place ++ ": " ++ cause)
  if outcome.exitCode = 2 then
    IO.eprint Uno.Command.Page.overview.text
  return outcome.exitCode.toUInt32
