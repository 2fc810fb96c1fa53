import Uno.Proofs.Event
import Uno.Proofs.Level
import Uno.Proofs.Program.Status
import Uno.Proofs.Reading.Events

/-!
# The log is an observer

The setting of the log decides which of the events of a run are written down, and nothing else. The more levels are
kept, the more is written, in the same order. A setting that keeps no more than warnings leaves the log empty, because
nothing that happens matters that much, and a run that stops before it has a command has no events. The first event of
every other run is that of the command. The events that a setting of `info` keeps are those of the cards that are done,
so this log names the cards up to the first one that cannot be read, as the output does when there is none.

## Main results

* `Verbosity.log_info` — what is kept at `info` is one line for each card that is done
* `Program.log_info_of_lines_ok`, `Program.log_info_of_lines_error` — the log of cards that are shown, at `info`
* `Program.log_observes` — what the setting changes, and what the log tells
-/

namespace Uno

/-- At `info`, there is one line for each event of this level, and it ends with the detail of the event. -/
theorem Verbosity.log_info [Text.Repertoire] (events : List Event) :
    (upTo .info).log events =
      (((events.map Event.observe).filter (·.level = .info)).map (·.detail)).map
        ("INFO unocard_cli::commands::show: read card card=" ++ ·) := by
  induction events with
  | nil => rfl
  | cons event events ih =>
    rw [← List.singleton_append, log_append, ih, List.map_append, List.filter_append, List.map_append,
      List.map_append]
    congr 1
    cases event <;> rfl

namespace Program

variable [Text.Repertoire] {setting : Option String} {arguments cards : List String} {command : Command}

/-- The setting of the log has no influence on anything else. -/
theorem ends_alike (setting setting' : Option String) (arguments : List String) :
    (run setting arguments).exitCode = (run setting' arguments).exitCode ∧
      (run setting arguments).stdout = (run setting' arguments).stdout ∧
      (run setting arguments).causes = (run setting' arguments).causes := by
  rcases run_cases setting arguments with
    ⟨stop, scanned, ended⟩ | ⟨command, lines, scanned, success, ended⟩ | ⟨cards, failure, scanned, failed, ended⟩
  · rw [ended, run_of_scan_error scanned]
    exact ⟨rfl, rfl, rfl⟩
  · rw [ended, run_of_lines_ok scanned success]
    exact ⟨rfl, rfl, rfl⟩
  · rw [ended, run_of_lines_error scanned failed]
    exact ⟨rfl, rfl, rfl⟩

/-- With a command, the first event that can be kept is that of the command. -/
theorem head?_log {level : Level} (scanned : Command.scan arguments = .ok command)
    (fine : Level.debug.rank ≤ level.rank) (asked : (Verbosity.upTo level).AskedBy setting) :
    (run setting arguments).log.head? = some (Event.understood command).line := by
  have kept : (Verbosity.upTo level).keeps (Event.understood command).level = true := by
    rw [Verbosity.keeps_iff]
    exact Nat.lt_succ_of_le fine
  rw [log_eq, Verbosity.ofSetting_of_askedBy asked, events_of_scan_ok scanned, Verbosity.log,
    List.filter_cons, if_pos kept]
  rfl

/-- The log of cards that are shown, at `info`, is what is seen of the cards that are done. -/
theorem log_info_eq (scanned : Command.scan arguments = .ok (.show cards))
    (asked : (Verbosity.upTo .info).AskedBy setting) :
    (run setting arguments).log =
      (((Reading.ofArguments cards).observed.filter (·.level = .info)).map (·.detail)).map
        ("INFO unocard_cli::commands::show: read card card=" ++ ·) := by
  rw [log_eq, Verbosity.ofSetting_of_askedBy asked, events_of_scan_ok scanned, Verbosity.log_info]
  rfl

/-- If all cards are read, they are what the log names at `info`, and the first columns of what is printed. -/
theorem log_info_of_lines_ok {lines : List String} (scanned : Command.scan arguments = .ok (.show cards))
    (asked : (Verbosity.upTo .info).AskedBy setting) (success : (Reading.ofArguments cards).lines = .ok lines) :
    ∃ read : List Card,
      List.Forall₂ (fun text card => Card.read text = .ok card) ((Entry.ofArguments cards).map Entry.text) read ∧
      (run setting arguments).log =
        read.map (fun card => "INFO unocard_cli::commands::show: read card card=" ++ card.text) ∧
      (run setting arguments).stdout = String.join (lines.map (· ++ "\n")) ∧
      (∀ line ∈ lines, '\n' ∉ line.toList) ∧
      lines.map Text.firstColumn = read.map Card.text := by
  obtain ⟨read, areCards, seen, columns⟩ := Reading.observed_of_lines_ok success
  have seen' : (Reading.ofArguments cards).observed = _ := seen
  refine ⟨read, areCards, ?_, ?_, Reading.newline_not_mem_lines success, columns⟩
  · rw [log_info_eq scanned asked, seen', Observation.filter_info_ofCards areCards, List.map_map]
    rfl
  · rw [run_of_lines_ok scanned success]

/-- If a card is not read, those in front of it are what the log names at `info`. -/
theorem log_info_of_lines_error {failure : Unreadable} (scanned : Command.scan arguments = .ok (.show cards))
    (asked : (Verbosity.upTo .info).AskedBy setting) (failed : (Reading.ofArguments cards).lines = .error failure) :
    ∃ (earlier behind : List String) (read : List Card),
      (Entry.ofArguments cards).map Entry.text = earlier ++ failure.entry :: behind ∧
      List.Forall₂ (fun text card => Card.read text = .ok card) earlier read ∧
      Card.read failure.entry = .error failure.fault ∧
      (run setting arguments).log =
        read.map (fun card => "INFO unocard_cli::commands::show: read card card=" ++ card.text) := by
  obtain ⟨earlier, behind, read, whole, areCards, notCard, seen⟩ := Reading.observed_of_lines_error failed
  have seen' : (Reading.ofArguments cards).observed = _ := seen
  refine ⟨earlier, behind, read, whole, areCards, notCard, ?_⟩
  -- The text that is no card is looked at, which does not matter enough for `info`.
  rw [log_info_eq scanned asked, seen', List.filter_append, List.map_append,
    Observation.filter_info_ofCards areCards, List.map_append, List.map_map]
  exact List.append_nil _

/-- **The log is an observer.** Two runs with the same arguments have the same exit status, output and causes, whatever
their settings of the log are. If one setting asks for no more levels than another, its log is found in the log of the
other, in the same order. Without a setting, and at `off`, `error` and `warn`, the log is empty. If there is no command,
because of a mistake in usage or because a page is asked for, it is empty at every setting; otherwise it begins at
`debug` and `trace` with the line of the command. If cards are shown at `info`, the log has one line for each card in
front of the first one that cannot be read, or for each card, and no others. Each line ends with the text of its card,
and if all cards are read, these texts are the first columns of the lines that are printed. -/
theorem log_observes (arguments : List String) :
    (∀ setting setting',
      (run setting arguments).exitCode = (run setting' arguments).exitCode ∧
      (run setting arguments).stdout = (run setting' arguments).stdout ∧
      (run setting arguments).causes = (run setting' arguments).causes) ∧
    (∀ (verbosity further : Verbosity) (setting setting' : Option String),
      verbosity.AskedBy setting → further.AskedBy setting' → verbosity.reach ≤ further.reach →
      (run setting arguments).log.Sublist (run setting' arguments).log) ∧
    (run none arguments).log = [] ∧
    (∀ verbosity ∈ [Verbosity.off, .upTo .error, .upTo .warn], ∀ setting, verbosity.AskedBy setting →
      (run setting arguments).log = []) ∧
    (∀ stop, Command.scan arguments = .error stop → ∀ setting, (run setting arguments).log = []) ∧
    (∀ command, Command.scan arguments = .ok command →
      ∀ level ∈ [Level.debug, .trace], ∀ setting, (Verbosity.upTo level).AskedBy setting →
      (run setting arguments).log.head? =
        some ("DEBUG unocard_cli: parsed arguments args=" ++ command.outline)) ∧
    ∀ cards setting, Command.scan arguments = .ok (.show cards) → (Verbosity.upTo .info).AskedBy setting →
      (∀ lines, (Reading.ofArguments cards).lines = .ok lines → ∃ read : List Card,
        List.Forall₂ (fun text card => Card.read text = .ok card) ((Entry.ofArguments cards).map Entry.text) read ∧
        (run setting arguments).log =
          read.map (fun card => "INFO unocard_cli::commands::show: read card card=" ++ card.text) ∧
        (run setting arguments).stdout = String.join (lines.map (· ++ "\n")) ∧
        (∀ line ∈ lines, '\n' ∉ line.toList) ∧
        lines.map Text.firstColumn = read.map Card.text) ∧
      ∀ failure, (Reading.ofArguments cards).lines = .error failure →
        ∃ (earlier behind : List String) (read : List Card),
        (Entry.ofArguments cards).map Entry.text = earlier ++ failure.entry :: behind ∧
        List.Forall₂ (fun text card => Card.read text = .ok card) earlier read ∧
        Card.read failure.entry = .error failure.fault ∧
        (run setting arguments).log =
          read.map (fun card => "INFO unocard_cli::commands::show: read card card=" ++ card.text) := by
  have silent : ∀ verbosity ∈ [Verbosity.off, .upTo .error, .upTo .warn], ∀ setting, verbosity.AskedBy setting →
      (run setting arguments).log = [] := by
    intro verbosity listed setting asked
    have less : ∀ verbosity ∈ [Verbosity.off, .upTo .error, .upTo .warn],
        verbosity.reach ≤ (Verbosity.upTo .warn).reach := by
      decide
    rw [log_eq, Verbosity.ofSetting_of_askedBy asked, Verbosity.log_eq_nil (less verbosity listed)]
  refine ⟨fun setting setting' => ends_alike setting setting' arguments, ?_, silent _ (by simp) none .absent, silent,
    ?_, ?_, ?_⟩
  · intro verbosity further setting setting' asked asked' less
    rw [log_eq, log_eq, Verbosity.ofSetting_of_askedBy asked, Verbosity.ofSetting_of_askedBy asked']
    exact Verbosity.log_sublist less (events arguments)
  · intro stop stopped setting
    rw [run_of_scan_error stopped]
  · intro command scanned level listed setting asked
    have fine : ∀ level ∈ [Level.debug, .trace], Level.debug.rank ≤ level.rank := by
      decide
    exact head?_log scanned (fine level listed) asked
  · intro cards setting scanned asked
    exact ⟨fun lines => log_info_of_lines_ok scanned asked, fun failure => log_info_of_lines_error scanned asked⟩

-- The card in front of the failure has been read.
example : (run (some "Info") ["show", "RED 7", "8"]).log =
    ["INFO unocard_cli::commands::show: read card card=RED 7"] := by
  rfl

end Program

end Uno
