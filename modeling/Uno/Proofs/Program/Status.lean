import Uno.Proofs.Program.Run
import Uno.Proofs.Reading.Append
import Uno.Proofs.Reading.Single
import Uno.Proofs.Text.Lines

/-!
# Exit status, output and causes

What a run leaves behind fits together. The exit status says whether there was a command and whether it could be
carried out, the causes are there exactly if it could not, and what is printed is there only if it could: all lines
or none. A line is printed for each entry, and nothing that was typed can put a line feed into one, so the line feeds
of the output count the entries. A run that succeeds and prints nothing had nothing to read.

## Main results

* `Reading.length_lines`, `Reading.newline_not_mem_lines` — what is printed is one line for each entry
* `Reading.lines_eq_nil_iff` — what is read without printing anything
* `Reading.exists_quoted_word` — the cause of a failure quotes a word of the entry that could not be read
* `Program.run_consistent` — exit status, output and causes of a run
-/

namespace Uno

namespace Reading

variable {arguments lines : List String} {failure : Unreadable}

/-- A line is printed for each entry. -/
theorem length_lines (success : (ofArguments arguments).lines = .ok lines) :
    lines.length = (Entry.ofArguments arguments).length := by
  obtain ⟨cards, isRead, rfl⟩ := lines_eq_ok_iff.mp success
  have spelled := (outcome_ofWords_eq_ok_iff Text.isWord_of_mem_flatMap_words).mp isRead
  rw [List.length_map, ← spelled.length_eq]
  rfl

/-- No line has a line feed in it. -/
theorem newline_not_mem_lines (success : (ofArguments arguments).lines = .ok lines) :
    ∀ line ∈ lines, '\n' ∉ line.toList := by
  obtain ⟨cards, -, rfl⟩ := lines_eq_ok_iff.mp success
  intro line printed member
  obtain ⟨card, -, rfl⟩ := List.mem_map.mp printed
  have visible := card.printable_of_mem_line member (by decide)
  exact absurd visible.1 (by decide)

/-- Nothing is printed for blanks, and for nothing else. -/
theorem lines_eq_nil_iff :
    (ofArguments arguments).lines = .ok [] ↔ ∀ argument ∈ arguments, Text.AllBlank argument := by
  rw [ofArguments_eq_ofWords, lines_ofWords_eq_nil_iff Text.isWord_of_mem_flatMap_words, List.flatMap_eq_nil_iff]
  exact forall₂_congr fun _ _ => Text.words_eq_nil_iff

/-- Words that form an entry are refused for one of them, as a color or as a value: there is a word, and there are not
more than two. -/
theorem exists_word_of_refused {ws : List String} {entry : Entry} {fault : CardError}
    (formed : entry ∈ Entry.ofWords ws) (refused : Card.Refused entry fault) :
    ∃ word ∈ entry, fault = .unknownColor word ∨ fault = .unknownValue word := by
  rcases Entry.eq_of_mem_ofWords formed with ⟨word, rfl⟩ | ⟨first, second, rfl, -⟩
  · cases refused with
    | color notTag => exact ⟨word, List.mem_cons_self, Or.inl rfl⟩
  · cases refused with
    | color notTag => exact ⟨first, List.mem_cons_self, Or.inl rfl⟩
    | value isColor notValue => exact ⟨second, by simp, Or.inr rfl⟩

/-- The cause of a failure quotes a word of the entry that could not be read. -/
theorem exists_quoted_word (failed : (ofArguments arguments).lines = .error failure) :
    ∃ entry ∈ Entry.ofArguments arguments, entry.text = failure.entry ∧
      ∃ word ∈ entry, failure.fault = .unknownColor word ∨ failure.fault = .unknownValue word := by
  obtain ⟨earlier, entry, behind, stops, shown⟩ := exists_stopsAt failed
  have formed : entry ∈ Entry.ofArguments arguments := by
    rw [stops.whole]
    exact List.mem_append_right earlier List.mem_cons_self
  have allWords := Entry.isWord_of_mem_ofWords Text.isWord_of_mem_flatMap_words formed
  have refused : Card.Refused entry failure.fault :=
    Card.ofWords_eq_error_iff.mp ((Entry.read_text allWords).symm.trans stops.refused)
  exact ⟨entry, formed, shown, exists_word_of_refused formed refused⟩

end Reading

namespace Command

/-- Help and usage end a run with 0 or 2. -/
theorem Stop.exitCode_eq (stop : Stop) : stop.exitCode = 0 ∨ stop.exitCode = 2 := by
  cases stop <;> simp [exitCode]

/-- What is printed in place of a command is a page, and only help is a success. -/
theorem Stop.stdout_eq_empty_iff (stop : Stop) : stop.stdout = "" ↔ stop.exitCode = 2 := by
  rcases stop with page | _
  · cases page <;> decide
  all_goals decide

end Command

namespace Program

open Command (Stop)

variable [Text.Repertoire] (setting : Option String) (arguments : List String)

/-- The exit status is 2 if the scan stops for a mistake. -/
theorem exitCode_eq_two_iff :
    (run setting arguments).exitCode = 2 ↔
      ∃ stop, Command.scan arguments = .error stop ∧ stop.exitCode = 2 := by
  rcases run_cases setting arguments with
    ⟨stop, scanned, ended⟩ | ⟨command, lines, scanned, success, ended⟩ | ⟨cards, failure, scanned, failed, ended⟩
  · simp [ended, scanned]
  · simp [ended, scanned]
  · simp [ended, scanned]

/-- The exit status is 1 if there are cards to show that cannot be read. -/
theorem exitCode_eq_one_iff :
    (run setting arguments).exitCode = 1 ↔
      ∃ cards failure, Command.scan arguments = .ok (.show cards) ∧
        (Reading.ofArguments cards).lines = .error failure := by
  rcases run_cases setting arguments with
    ⟨stop, scanned, ended⟩ | ⟨command, lines, scanned, success, ended⟩ | ⟨cards, failure, scanned, failed, ended⟩
  · have status := stop.exitCode_eq
    rw [ended, scanned]
    exact iff_of_false (by simp only; omega) (by simp)
  · simp only [ended, scanned]
    refine iff_of_false (by decide) ?_
    intro unreadable
    obtain ⟨cards, failure, shown, failed⟩ := unreadable
    obtain rfl := Except.ok.inj shown
    rw [Command.lines, failed] at success
    contradiction
  · simp [ended, scanned, failed]

/-- A run succeeds without printing anything exactly if it shows cards and there is nothing but blanks to read. -/
theorem silent_iff :
    (run setting arguments).exitCode = 0 ∧ (run setting arguments).stdout = "" ↔
      ∃ cards, Command.scan arguments = .ok (.show cards) ∧ ∀ card ∈ cards, Text.AllBlank card := by
  rcases run_cases setting arguments with
    ⟨stop, scanned, ended⟩ | ⟨command, lines, scanned, success, ended⟩ | ⟨cards, failure, scanned, failed, ended⟩
  · simp only [ended, scanned, stop.stdout_eq_empty_iff]
    refine iff_of_false (by omega) ?_
    simp
  · simp only [ended, scanned, Text.join_eq_empty_iff, ← Reading.lines_eq_nil_iff, true_and]
    constructor
    · intro none
      rw [none] at success
      rcases command with cards | _
      · exact ⟨cards, rfl, success⟩
      · -- The list of colors is not empty.
        have listed : Color.all.map Color.legend = [] := Except.ok.inj success
        exact absurd listed (by decide)
    · intro blank
      obtain ⟨cards, shown, noLines⟩ := blank
      obtain rfl := Except.ok.inj shown
      exact Except.ok.inj (success.symm.trans noLines)
  · simp only [ended, scanned, ← Reading.lines_eq_nil_iff]
    refine iff_of_false (by simp) ?_
    intro blank
    obtain ⟨cards', shown, noLines⟩ := blank
    obtain rfl := Command.show.inj (Except.ok.inj shown)
    rw [failed] at noLines
    contradiction

variable {setting arguments} {cards : List String}

/-- The line feeds of what is printed are the ends of the lines, one for each entry. -/
theorem stdout_of_show (scanned : Command.scan arguments = .ok (.show cards))
    (succeeds : (run setting arguments).exitCode = 0) :
    (run setting arguments).stdout.toList.count '\n' = (Entry.ofArguments cards).length ∧
      ((run setting arguments).stdout ≠ "" →
        (run setting arguments).stdout.toList.getLast? = some '\n') := by
  cases h : (Reading.ofArguments cards).lines with
  | error failure =>
    rw [run_of_lines_error scanned h] at succeeds
    contradiction
  | ok lines =>
    rw [run_of_lines_ok scanned h, ← Reading.length_lines h]
    refine ⟨Text.count_newline_join (Reading.newline_not_mem_lines h), ?_⟩
    intro visible
    exact Text.getLast?_join (mt Text.join_eq_empty_iff.mpr visible)

/-- The causes of a failure are two sentences. The first quotes an entry, the second a word of it. -/
theorem causes_of_show {failure : Unreadable} (scanned : Command.scan arguments = .ok (.show cards))
    (failed : (Reading.ofArguments cards).lines = .error failure) :
    (run setting arguments).causes = [failure.message, failure.fault.message] ∧
      ∃ entry ∈ Entry.ofArguments cards,
        failure.message = "Could not read `" ++ entry.text ++ "` as a card" ∧
        ∃ word ∈ entry, failure.fault.message = "Unknown card color `" ++ word ++ "`" ∨
          failure.fault.message = "Unknown card value `" ++ word ++ "`" := by
  obtain ⟨entry, formed, shown, word, member, reason⟩ := Reading.exists_quoted_word failed
  rw [run_of_lines_error scanned failed]
  refine ⟨rfl, entry, formed, ?_, word, member, ?_⟩
  · rw [shown]
    rfl
  · rcases reason with noColor | noValue
    · rw [noColor]
      exact Or.inl rfl
    · rw [noValue]
      exact Or.inr rfl

/-- **Exit status, output and causes.** The exit status of a run is 0, 1 or 2. It is 2 exactly if the scan of the
command line stops for a mistake in usage, and then nothing is printed, logged or given as a cause. It is 1 exactly if
there are cards to show and they cannot be read. Then nothing is printed, whatever could be read before, and there are
two causes: the first quotes the entry that could not be read, and the second a word of this entry. In all other cases
it is 0, and there are no causes. If there were cards to show, there are as many line feeds in what is printed as there
are entries, and the last of them is at the end. Only where the cards are nothing but blanks, the run succeeds without
printing anything. -/
theorem run_consistent (setting : Option String) (arguments : List String) :
    ((run setting arguments).exitCode = 0 ∨ (run setting arguments).exitCode = 1 ∨
      (run setting arguments).exitCode = 2) ∧
    ((run setting arguments).exitCode = 2 ↔
      ∃ stop, Command.scan arguments = .error stop ∧ stop.exitCode = 2) ∧
    ((run setting arguments).exitCode = 2 →
      (run setting arguments).stdout = "" ∧ (run setting arguments).log = [] ∧
      (run setting arguments).causes = []) ∧
    ((run setting arguments).exitCode = 1 ↔
      ∃ cards failure, Command.scan arguments = .ok (.show cards) ∧
        (Reading.ofArguments cards).lines = .error failure) ∧
    (∀ cards failure, Command.scan arguments = .ok (.show cards) →
      (Reading.ofArguments cards).lines = .error failure →
      (run setting arguments).stdout = "" ∧
      (run setting arguments).causes = [failure.message, failure.fault.message] ∧
      ∃ entry ∈ Entry.ofArguments cards,
        failure.message = "Could not read `" ++ entry.text ++ "` as a card" ∧
        ∃ word ∈ entry, failure.fault.message = "Unknown card color `" ++ word ++ "`" ∨
          failure.fault.message = "Unknown card value `" ++ word ++ "`") ∧
    ((run setting arguments).exitCode = 0 → (run setting arguments).causes = []) ∧
    (∀ cards, Command.scan arguments = .ok (.show cards) → (run setting arguments).exitCode = 0 →
      (run setting arguments).stdout.toList.count '\n' = (Entry.ofArguments cards).length ∧
      ((run setting arguments).stdout ≠ "" →
        (run setting arguments).stdout.toList.getLast? = some '\n')) ∧
    ((run setting arguments).exitCode = 0 ∧ (run setting arguments).stdout = "" ↔
      ∃ cards, Command.scan arguments = .ok (.show cards) ∧ ∀ card ∈ cards, Text.AllBlank card) := by
  refine ⟨?_, exitCode_eq_two_iff setting arguments, ?_, exitCode_eq_one_iff setting arguments, ?_, ?_,
    fun cards => stdout_of_show, silent_iff setting arguments⟩
  · rcases run_cases setting arguments with ⟨stop, -, ended⟩ | ⟨_, _, -, -, ended⟩ | ⟨_, _, -, -, ended⟩
    · rw [ended]
      exact stop.exitCode_eq.imp_right Or.inr
    · rw [ended]
      exact Or.inl rfl
    · rw [ended]
      exact Or.inr (Or.inl rfl)
  · intro mistake
    obtain ⟨stop, scanned, isTwo⟩ := (exitCode_eq_two_iff setting arguments).mp mistake
    rw [run_of_scan_error scanned]
    exact ⟨stop.stdout_eq_empty_iff.mpr isTwo, rfl, rfl⟩
  · intro cards failure scanned failed
    refine ⟨?_, causes_of_show scanned failed⟩
    rw [run_of_lines_error scanned failed]
  · intro succeeds
    rcases run_cases setting arguments with ⟨_, -, ended⟩ | ⟨_, _, -, -, ended⟩ | ⟨_, _, -, -, ended⟩
    · rw [ended]
    · rw [ended]
    · rw [ended] at succeeds
      contradiction

-- The card in front of the failure is given up.
example : run none ["show", "RED 7", "8"] =
    ⟨1, "", [], ["Could not read `8` as a card", "Unknown card color `8`"]⟩ := by
  rfl

end Program

end Uno
