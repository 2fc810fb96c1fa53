import Uno.Program
import Uno.Proofs.Command.Scan
import Uno.Proofs.Reading.Spelling

/-!
# Showing cards

Between the user and the reader of cards stands the scan of the command line, which takes some words for options. It
does not get in the way of cards: the words of a command line that can be read are tags, no tag begins with a dash,
and so no argument does, while an option has to. All cards that can be read may therefore be given as they are. Behind
the word `--` the scan looks at nothing, so there it is the reader alone who decides how the run ends.

## Main results

* `Reading.head?_ne_dash_of_lines_ok` — no argument that can be read begins with a dash
* `Program.run_show_of_lines_ok`, `Program.run_show_of_lines_error` — the run of a command line that shows cards
* `Program.run_show_lines` — cards that are given as they are, and arguments behind `--`
-/

namespace Uno

variable {arguments lines : List String}

/-! ### No card looks like an option -/

/-- The words that spell a card do not begin with a dash. -/
theorem Card.Spelled.head?_ne_dash {ws : List String} {card : Card} (spelled : Spelled ws card) :
    ∀ word ∈ ws, word.toList.head? ≠ some '-' := by
  cases spelled with
  | plain isColor => simpa using Color.head?_ne_dash_of_read isColor
  | valued isColor isValue =>
    simpa using And.intro (Color.head?_ne_dash_of_read isColor) (Value.head?_ne_dash_of_read isValue)

namespace Reading

/-- The words of a command line that can be read do not begin with a dash. -/
theorem head?_ne_dash_of_mem_words (success : (ofArguments arguments).lines = .ok lines) :
    ∀ word ∈ arguments.flatMap Text.words, word.toList.head? ≠ some '-' := by
  obtain ⟨cards, isRead, -⟩ := lines_eq_ok_iff.mp success
  have spelled := (outcome_ofWords_eq_ok_iff Text.isWord_of_mem_flatMap_words).mp isRead
  have noDash : ∀ entry ∈ Entry.ofWords (arguments.flatMap Text.words),
      ∀ word ∈ entry, word.toList.head? ≠ some '-' := by
    have each := spelled.imp fun entry card isCard => And.intro isCard.head?_ne_dash isCard
    exact ((List.forall₂_and_left _ _).mp each).1
  intro word member
  rw [← Entry.flatten_ofWords (arguments.flatMap Text.words)] at member
  obtain ⟨entry, listed, member⟩ := List.mem_flatten.mp member
  exact noDash entry listed word member

/-- The arguments of a command line that can be read do not begin with a dash. -/
theorem head?_ne_dash_of_lines_ok (success : (ofArguments arguments).lines = .ok lines) :
    ∀ argument ∈ arguments, argument.toList.head? ≠ some '-' := by
  intro argument listed begins
  -- A dash is not blank, so the argument would begin with a word that begins with a dash.
  obtain ⟨word, member, wordBegins⟩ := Text.exists_word_of_head? begins (by decide)
  exact head?_ne_dash_of_mem_words success word (List.mem_flatMap.mpr ⟨argument, listed, member⟩) wordBegins

end Reading

namespace Program

/-! ### Runs that show cards -/

section Repertoire

variable [Text.Repertoire] {cards : List String} (setting : Option String)

/-- The run of a command line whose cards can be read. -/
theorem run_show_of_lines_ok (scanned : Command.scan arguments = .ok (.show cards))
    (success : (Reading.ofArguments cards).lines = .ok lines) :
    (run setting arguments).exitCode = 0 ∧
      (run setting arguments).stdout = String.join (lines.map (· ++ "\n")) := by
  simp [run, scanned, Command.lines, success]

/-- The run of a command line whose cards cannot be read. -/
theorem run_show_of_lines_error {failure : Unreadable} (scanned : Command.scan arguments = .ok (.show cards))
    (failed : (Reading.ofArguments cards).lines = .error failure) :
    (run setting arguments).exitCode = 1 ∧ (run setting arguments).stdout = "" ∧
      (run setting arguments).causes = failure.causes := by
  simp [run, scanned, Command.lines, failed]

/-- **Showing cards.** If some arguments can be read as cards, none of them begins with a dash or is taken for an
option, and with or without the word `--` in front of them the run succeeds, whatever the setting of the log, and
prints their lines. Arguments behind `--` are never a mistake in usage nor a request for help: if they can be read, the
run succeeds and prints their lines; otherwise it fails, prints nothing, and says what could not be read and
why. -/
theorem run_show_lines (setting : Option String) (arguments : List String) (nonempty : arguments ≠ []) :
    (∀ lines, (Reading.ofArguments arguments).lines = .ok lines →
      (∀ argument ∈ arguments, argument.toList.head? ≠ some '-' ∧ Command.isOption argument = false) ∧
      Command.scan ("show" :: arguments) = .ok (.show arguments) ∧
      (run setting ("show" :: arguments)).exitCode = 0 ∧
      (run setting ("show" :: arguments)).stdout = String.join (lines.map (· ++ "\n")) ∧
      (run setting ("show" :: "--" :: arguments)).exitCode = 0 ∧
      (run setting ("show" :: "--" :: arguments)).stdout = String.join (lines.map (· ++ "\n"))) ∧
    Command.scan ("show" :: "--" :: arguments) = .ok (.show arguments) ∧
    match (Reading.ofArguments arguments).lines with
    | .ok lines =>
      (run setting ("show" :: "--" :: arguments)).exitCode = 0 ∧
      (run setting ("show" :: "--" :: arguments)).stdout = String.join (lines.map (· ++ "\n"))
    | .error failure =>
      (run setting ("show" :: "--" :: arguments)).exitCode = 1 ∧
      (run setting ("show" :: "--" :: arguments)).stdout = "" ∧
      (run setting ("show" :: "--" :: arguments)).causes = [failure.message, failure.fault.message] := by
  have scanned := Command.scan_show_dashes nonempty
  refine ⟨?_, scanned, ?_⟩
  · intro lines success
    have noDash := Reading.head?_ne_dash_of_lines_ok success
    have noOption : ∀ argument ∈ arguments, Command.isOption argument = false :=
      fun argument listed => Command.isOption_eq_false_of_head? (noDash argument listed)
    have scannedFirst := Command.scan_show_of_not_isOption nonempty noOption
    obtain ⟨exit, stdout⟩ := run_show_of_lines_ok setting scannedFirst success
    obtain ⟨exit', stdout'⟩ := run_show_of_lines_ok setting scanned success
    exact ⟨fun argument listed => ⟨noDash argument listed, noOption argument listed⟩, scannedFirst, exit, stdout,
      exit', stdout'⟩
  · cases h : (Reading.ofArguments arguments).lines with
    | ok lines => exact run_show_of_lines_ok setting scanned h
    | error failure => exact run_show_of_lines_error setting scanned h

end Repertoire

/-- Cards in small letters, with a tag that is never written and blanks around a number; and behind `--`, a word that
is refused as a value and not as an option. -/
theorem run_show_lines_of_cards_and_dash :
    (run (some "info") ["show", "red", "+2", " wild\t7 "]).exitCode = 0 ∧
      (run (some "info") ["show", "red", "+2", " wild\t7 "]).stdout =
        "RED DRAW_TWO\tcolor=RED\tvalue=DRAW_TWO\nWILD 7\tcolor=WILD\tvalue=7\n" ∧
      (run none ["show", "--", "RED", "-1"]).exitCode = 1 ∧
      (run none ["show", "--", "RED", "-1"]).stdout = "" ∧
      (run none ["show", "--", "RED", "-1"]).causes =
        ["Could not read `RED -1` as a card", "Unknown card value `-1`"] := by
  have success : (Reading.ofArguments ["red", "+2", " wild\t7 "]).lines =
      .ok ["RED DRAW_TWO\tcolor=RED\tvalue=DRAW_TWO", "WILD 7\tcolor=WILD\tvalue=7"] := by
    rfl
  have failed : (Reading.ofArguments ["RED", "-1"]).lines = .error ⟨"RED -1", .unknownValue "-1"⟩ := by
    rfl
  obtain ⟨-, -, exit, stdout, -⟩ := (run_show_lines (some "info") _ (List.cons_ne_nil _ _)).1 _ success
  have behind := (run_show_lines none ["RED", "-1"] (List.cons_ne_nil _ _)).2.2
  rw [failed] at behind
  exact ⟨exit, stdout, behind⟩

end Program

end Uno
