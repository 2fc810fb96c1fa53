import Uno.Command.Scan
import Uno.Reading

/-!
# The program

A run of the program depends on the words of its command line and on the setting of the log. It prints lines,
or fails and prints nothing but says why, from the failure down to its cause. The log is written beside that
and has no influence on it. A command line that asks for no command ends the run before anything can be noted.

## Main definitions

* `Command.events`, `Command.lines` — what carrying out a command brings about
* `Outcome` — what a run leaves behind
* `Program.run` — the outcome of a run

## Main results

* `Program.run_of_scan_error` — a run without a command has no log and no causes
-/

namespace Uno

/-- The lines that a command prints, or the reason why it fails. -/
def Command.lines : Command → Except Unreadable (List String)
  | .show cards => (Reading.ofArguments cards).lines
  | .colors => .ok (Color.all.map Color.legend)

/-- The events of carrying out a command. -/
def Command.events : Command → List Event
  | .show cards => (Reading.ofArguments cards).events
  | .colors => []

/-- What a run of the program leaves behind. -/
structure Outcome where
  /-- The exit status: 0 for success, 1 for failure, 2 for a mistake in usage. -/
  exitCode : Nat
  /-- What is printed. -/
  stdout : String
  /-- The lines of the log. -/
  log : List String
  /-- The sentences from the failure down to its cause. -/
  causes : List String
  deriving DecidableEq, Repr

namespace Program

variable [Text.Repertoire]

/-- The outcome of a run with a setting of the log, which may be absent, and the words of a command line. -/
def run (setting : Option String) (arguments : List String) : Outcome :=
  match Command.scan arguments with
  | .error stop => ⟨stop.exitCode, stop.stdout, [], []⟩
  | .ok command =>
    let log := (Verbosity.ofSetting setting).log (.understood command :: command.events)
    match command.lines with
    | .ok lines => ⟨0, String.join (lines.map (· ++ "\n")), log, []⟩
    | .error failure => ⟨1, "", log, failure.causes⟩

/-- A run without a command has no log and no causes. -/
theorem run_of_scan_error {setting : Option String} {arguments : List String} {stop : Command.Stop}
    (stopped : Command.scan arguments = .error stop) :
    run setting arguments = ⟨stop.exitCode, stop.stdout, [], []⟩ := by
  simp [run, stopped]

end Program

end Uno
