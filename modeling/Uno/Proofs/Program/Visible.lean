import Uno.Proofs.Event
import Uno.Proofs.Program.Run
import Uno.Proofs.Text.Lines

/-!
# Nothing that was typed is shown raw

The arguments of the program can hold any character, also those that move the cursor of a terminal, and they can be
made to look like something that the program writes itself. They appear in its log, but in quotes only, and they do
not appear in its output at all, which is made of the texts of cards, colors and pages. So each event makes one line
of the log, a line tells its event, and all that is printed is visible ASCII, spaces, tabs and line feeds. It does not
matter which characters outside ASCII the quotes show as they are.

## Main results

* `Program.shown_stdout` — what can be in the output of a run
* `Program.nothing_shown_raw` — the log and the output of a run
-/

namespace Uno

/-- A character that may be printed: visible ASCII, a space, a tab or a line feed. -/
def Text.IsShown (c : Char) : Prop :=
  (32 ≤ c.toNat ∧ c.toNat ≤ 126) ∨ c = '\t' ∨ c = '\n'

namespace Command

/-- The lines that a command prints are visible ASCII, spaces and tabs. -/
theorem printable_of_mem_lines {command : Command} {lines : List String} (success : command.lines = .ok lines)
    {line : String} (printed : line ∈ lines) {c : Char} (member : c ∈ line.toList) :
    (32 ≤ c.toNat ∧ c.toNat ≤ 126) ∨ c = '\t' := by
  rcases command with cards | _
  · obtain ⟨cards, -, rfl⟩ := Reading.lines_eq_ok_iff.mp success
    obtain ⟨card, -, rfl⟩ := List.mem_map.mp printed
    by_cases isTab : c = '\t'
    · exact Or.inr isTab
    · exact Or.inl (card.printable_of_mem_line member isTab)
  · obtain rfl := Except.ok.inj success
    have legends : ∀ color ∈ Color.all, Text.Printable color.legend := by decide
    obtain ⟨color, listed, rfl⟩ := List.mem_map.mp printed
    exact Or.inl (legends color listed c member)

/-- The lines of a page are visible ASCII and spaces. -/
theorem Page.printable_of_mem_lines (page : Page) : ∀ line ∈ page.lines, Text.Printable line := by
  cases page <;> simp only [Page.lines, List.forall_mem_cons] <;> and_intros
  any_goals exact Text.printable_ofList (by decide)
  all_goals simp

end Command

namespace Program

variable [Text.Repertoire] (setting : Option String) (arguments : List String)

/-- What is printed consists of lines, each ended by a line feed. -/
theorem exists_lines_stdout :
    ∃ lines : List String, (run setting arguments).stdout = String.join (lines.map (· ++ "\n")) ∧
      ∀ line ∈ lines, ∀ c ∈ line.toList, (32 ≤ c.toNat ∧ c.toNat ≤ 126) ∨ c = '\t' := by
  rcases run_cases setting arguments with
    ⟨stop, -, ended⟩ | ⟨command, lines, -, success, ended⟩ | ⟨_, _, -, -, ended⟩
  · rw [ended]
    rcases stop with page | _
    · exact ⟨page.lines, rfl, fun line listed c member => Or.inl (page.printable_of_mem_lines line listed c member)⟩
    all_goals exact ⟨[], rfl, by simp⟩
  · rw [ended]
    exact ⟨lines, rfl, fun line printed c => Command.printable_of_mem_lines success printed⟩
  · rw [ended]
    exact ⟨[], rfl, by simp⟩

/-- Visible ASCII, spaces, tabs and line feeds are all that is printed. -/
theorem shown_stdout : ∀ c ∈ (run setting arguments).stdout.toList, Text.IsShown c := by
  obtain ⟨lines, printed, shown⟩ := exists_lines_stdout setting arguments
  intro c member
  rw [printed, Text.mem_join_lines_iff] at member
  obtain ⟨line, listed, inLine | isEnd⟩ := member
  · exact (shown line listed c inLine).imp_right Or.inl
  · exact Or.inr (Or.inr isEnd)

/-- **Nothing that was typed is shown raw.** No line of the log has an ASCII control in it, whatever the arguments and
the setting are, and so there are as many line feeds in the log, with its lines ended, as events that are kept. A line
tells the event that it is about: the line of a command that was understood shows its outline, which tells the command
and the texts of its cards, and the line of a text that is looked at shows the text in quotes, which tell the text.
What is printed is visible ASCII, spaces, tabs and line feeds. -/
theorem nothing_shown_raw :
    (∀ setting arguments, ∀ line ∈ (run setting arguments).log, ∀ c ∈ line.toList,
      32 ≤ c.toNat ∧ c.toNat ≠ 127) ∧
    (∀ setting arguments,
      (String.join ((run setting arguments).log.map (· ++ "\n"))).toList.count '\n' =
        ((events arguments).filter fun event => (Verbosity.ofSetting setting).keeps event.level).length) ∧
    (∀ event event' : Event, event.line = event'.line → event = event') ∧
    (∀ command : Command,
      (Event.understood command).line = "DEBUG unocard_cli: parsed arguments args=" ++ command.outline) ∧
    (∀ command command' : Command, command.outline = command'.outline → command = command') ∧
    (∀ text, (Event.reading text).line = "TRACE unocard::card: parsing card input=" ++ Text.quoted text) ∧
    (∀ text text', Text.quoted text = Text.quoted text' → text = text') ∧
    ∀ setting arguments, ∀ c ∈ (run setting arguments).stdout.toList,
      (32 ≤ c.toNat ∧ c.toNat ≤ 126) ∨ c = '\t' ∨ c = '\n' := by
  refine ⟨?_, ?_, Event.line_injective, Event.line_understood, Command.outline_injective, Event.line_reading,
    Text.quoted_injective, shown_stdout⟩
  · intro setting arguments line listed c member
    rw [log_eq, Verbosity.log] at listed
    obtain ⟨event, -, rfl⟩ := List.mem_map.mp listed
    have noControl : ¬ Text.IsControl c := event.controlFree_line c member
    unfold Text.IsControl at noControl
    omega
  · intro setting arguments
    rw [log_eq, Verbosity.log, Text.count_newline_join, List.length_map]
    intro line listed
    obtain ⟨event, -, rfl⟩ := List.mem_map.mp listed
    exact event.newline_not_mem_line

end Program

end Uno
