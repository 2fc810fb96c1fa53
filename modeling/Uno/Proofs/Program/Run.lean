import Uno.Program
import Uno.Proofs.Reading.Step

/-!
# How a run can end

A run of the program ends in one of three ways. The scan of the command line stops, and the run ends without having
done anything. Or there is a command, and it is carried out: its lines are printed. Or the command is to show cards
that cannot be read, and the run fails with nothing printed. No other command fails. Whatever is said of all runs is
said of these three.

## Main definitions

* `Program.events` — what happens in a run

## Main results

* `Program.log_eq` — the log of a run keeps some of its events
* `Program.run_of_lines_ok`, `Program.run_of_lines_error` — the outcome of a run with a command
* `Program.run_cases` — there is no fourth possibility
-/

namespace Uno

/-- Only cards that cannot be read make a command fail. -/
theorem Command.lines_eq_error_iff {command : Command} {failure : Unreadable} :
    command.lines = .error failure ↔
      ∃ cards, command = .show cards ∧ (Reading.ofArguments cards).lines = .error failure := by
  rcases command with cards | _
  · simp [lines]
  · simp [lines]

namespace Program

variable {setting : Option String} {arguments : List String} {command : Command}

/-- The events of a run: those of its command, behind the one that tells the command. -/
def events (arguments : List String) : List Event :=
  match Command.scan arguments with
  | .error _ => []
  | .ok command => .understood command :: command.events

theorem events_of_scan_error {stop : Command.Stop} (stopped : Command.scan arguments = .error stop) :
    events arguments = [] := by
  rw [events, stopped]

theorem events_of_scan_ok (scanned : Command.scan arguments = .ok command) :
    events arguments = .understood command :: command.events := by
  rw [events, scanned]

variable [Text.Repertoire]

/-- A run that carries out its command prints the lines of the command. -/
theorem run_of_lines_ok {lines : List String} (scanned : Command.scan arguments = .ok command)
    (success : command.lines = .ok lines) :
    run setting arguments =
      ⟨0, String.join (lines.map (· ++ "\n")), (Verbosity.ofSetting setting).log (events arguments), []⟩ := by
  simp [run, scanned, success, events_of_scan_ok]

/-- A run whose command fails prints nothing and says why. -/
theorem run_of_lines_error {failure : Unreadable} (scanned : Command.scan arguments = .ok command)
    (failed : command.lines = .error failure) :
    run setting arguments = ⟨1, "", (Verbosity.ofSetting setting).log (events arguments), failure.causes⟩ := by
  simp [run, scanned, failed, events_of_scan_ok]

/-- The three ways in which a run ends. -/
theorem run_cases (setting : Option String) (arguments : List String) :
    (∃ stop, Command.scan arguments = .error stop ∧
      run setting arguments = ⟨stop.exitCode, stop.stdout, [], []⟩) ∨
    (∃ command lines, Command.scan arguments = .ok command ∧ command.lines = .ok lines ∧
      run setting arguments =
        ⟨0, String.join (lines.map (· ++ "\n")), (Verbosity.ofSetting setting).log (events arguments), []⟩) ∨
    ∃ cards failure, Command.scan arguments = .ok (.show cards) ∧
      (Reading.ofArguments cards).lines = .error failure ∧
      run setting arguments = ⟨1, "", (Verbosity.ofSetting setting).log (events arguments), failure.causes⟩ := by
  cases scanned : Command.scan arguments with
  | error stop => exact Or.inl ⟨stop, rfl, run_of_scan_error scanned⟩
  | ok command =>
    right
    cases h : command.lines with
    | ok lines => exact Or.inl ⟨command, lines, rfl, h, run_of_lines_ok scanned h⟩
    | error failure =>
      obtain ⟨cards, rfl, failed⟩ := Command.lines_eq_error_iff.mp h
      exact Or.inr ⟨cards, failure, rfl, failed, run_of_lines_error scanned h⟩

/-- The log of a run keeps some of its events. -/
theorem log_eq (setting : Option String) (arguments : List String) :
    (run setting arguments).log = (Verbosity.ofSetting setting).log (events arguments) := by
  rcases run_cases setting arguments with ⟨_, stopped, ended⟩ | ⟨_, _, -, -, ended⟩ | ⟨_, _, -, -, ended⟩
  · rw [ended, events_of_scan_error stopped]
    rfl
  · rw [ended]
  · rw [ended]

end Program

end Uno
