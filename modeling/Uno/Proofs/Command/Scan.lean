import Mathlib.Data.List.TakeWhile
import Uno.Command.Scan

/-!
# Which command lines are understood

The scan goes from word to word and stops where the matter is decided. What it comes to can be said of the command line
as a whole. The first `--` cuts the words after `show` in two. Behind the cut, words are cards whatever they look like.
In front of it, a word with a dash in front that goes on behind the dash is a wish of its own, and the first such word
decides alone, whatever follows. Where there is none, all words but the cut itself are the cards, in the order in which
they stand and without a change, and there has to be one at least.

## Main definitions

* `Command.ahead`, `Command.behind` — the words in front of the first `--` and those behind it
* `Command.IsDashWord` — a word that begins with a dash and goes on
* `Command.IsFirstDashWord` — the first such word

## Main results

* `Command.isOption_iff` — the words with a dash in front are the options of the scan
* `Command.scanCards_eq` — the cards of `show` without a scan from word to word
* `Command.scan_show_eq_error_iff` — the command lines after `show` that are refused, and why
* `Command.scan_show_of_not_isOption`, `Command.scan_show_dashes` — words that are scanned as cards
* `Command.scan_exactly` — the command lines that are understood, and what is said of the others after `show`
-/

namespace Uno.Command

variable {word : String} {words arguments : List String}

/-! ### Words with a dash in front -/

/-- A word that begins with a dash and is more than that dash. -/
def IsDashWord (word : String) : Prop :=
  word.toList.head? = some '-' ∧ word ≠ "-"

/-- The words with a dash in front are the options. -/
theorem isOption_iff : isOption word = true ↔ IsDashWord word := by
  rw [IsDashWord, ne_eq, ← String.toList_inj]
  unfold isOption
  split
  · rename_i c cs written
    simp [written]
  · rename_i notOption
    constructor
    · intro isTrue
      contradiction
    · rintro ⟨begins, more⟩
      obtain ⟨cs, written⟩ := List.head?_eq_some_iff.mp begins
      cases cs with
      | nil => exact absurd written more
      | cons c cs => exact absurd written (notOption c cs)

theorem isOption_eq_false_iff : isOption word = false ↔ ¬ IsDashWord word := by
  rw [← isOption_iff, Bool.not_eq_true]

/-- What does not begin with a dash is no option. -/
theorem isOption_eq_false_of_head? (noDash : word.toList.head? ≠ some '-') : isOption word = false :=
  isOption_eq_false_iff.mpr fun dashWord => noDash dashWord.1

theorem isDashWord_dashes : IsDashWord "--" :=
  ⟨rfl, by decide⟩

/-- Only requests for help are anything but unknown arguments. -/
theorem stopAt_eq_unknownArgument_or (page : Page) (word : String) :
    stopAt page word = .unknownArgument ∨ "-h".toList <+: word.toList ∨ "--help".toList <+: word.toList := by
  unfold stopAt
  split
  · rename_i long written
    split
    · rename_i isHelp
      -- The name of the option is what stands in front of an equals sign, and it is `help`.
      right; right
      have begins : ['h', 'e', 'l', 'p'] <+: long := isHelp ▸ List.takeWhile_prefix _
      rw [written]
      exact (List.prefix_append_right_inj ['-', '-']).mpr begins
    · exact Or.inl rfl
  · rename_i letters written
    right; left
    rw [written]
    exact ⟨letters, rfl⟩
  · exact Or.inl rfl

/-! ### The cut -/

/-- The words in front of the first `--`, or all words if there is none. -/
def ahead (words : List String) : List String :=
  words.takeWhile (· ≠ "--")

/-- The words behind the first `--`, or no word if there is none. -/
def behind (words : List String) : List String :=
  (words.dropWhile (· ≠ "--")).tail

@[simp] theorem ahead_dashes (words : List String) : ahead ("--" :: words) = [] := by
  simp [ahead]

@[simp] theorem behind_dashes (words : List String) : behind ("--" :: words) = words := by
  simp [behind]

theorem ahead_cons (notDashes : word ≠ "--") : ahead (word :: words) = word :: ahead words :=
  List.takeWhile_cons_of_pos (by simpa using notDashes)

theorem behind_cons (notDashes : word ≠ "--") : behind (word :: words) = behind words := by
  rw [behind, List.dropWhile_cons_of_pos (by simpa using notDashes)]
  rfl

/-- The first word in a sequence with a dash in front. -/
def IsFirstDashWord (words : List String) (word : String) : Prop :=
  ∃ earlier later, words = earlier ++ word :: later ∧ (∀ other ∈ earlier, ¬ IsDashWord other) ∧ IsDashWord word

theorem find?_isOption_eq_some_iff : words.find? isOption = some word ↔ IsFirstDashWord words word := by
  rw [List.find?_eq_some_iff_append, isOption_iff]
  constructor
  · rintro ⟨dashWord, earlier, later, rfl, none⟩
    exact ⟨earlier, later, rfl, fun other member => by simpa [isOption_eq_false_iff] using none other member, dashWord⟩
  · rintro ⟨earlier, later, rfl, none, dashWord⟩
    exact ⟨dashWord, earlier, later, rfl, fun other member => by simpa [isOption_eq_false_iff] using none other member⟩

theorem find?_isOption_eq_none_iff : words.find? isOption = none ↔ ∀ word ∈ words, ¬ IsDashWord word := by
  rw [List.find?_eq_none]
  exact forall₂_congr fun word _ => not_congr isOption_iff

/-! ### The cards of `show` -/

/-- The cards are all words but the first `--`, unless there is an option in front of it, of which the first one
decides. -/
theorem scanCards_eq (words : List String) :
    scanCards words =
      match (ahead words).find? isOption with
      | some word => .error (stopAt .show word)
      | none => .ok (ahead words ++ behind words) := by
  induction words with
  | nil => rfl
  | cons word words ih =>
    by_cases isDashes : word = "--"
    · rw [isDashes, scanCards_dashes, ahead_dashes, behind_dashes]
      rfl
    · rw [scanCards, if_neg isDashes, ahead_cons isDashes, behind_cons isDashes]
      by_cases option : isOption word = true
      · rw [if_pos option, List.find?_cons_of_pos option]
      · rw [if_neg option, List.find?_cons_of_neg option, ih]
        cases (ahead words).find? isOption with
        | some first => rfl
        | none => rfl

/-- The command `show` has the cards that are found behind it, if there are any. -/
theorem scan_show {cards : List String} (scanned : scanCards words = .ok cards) (nonempty : cards ≠ []) :
    scan ("show" :: words) = .ok (.show cards) := by
  obtain ⟨card, others, rfl⟩ := List.exists_cons_of_ne_nil nonempty
  rw [scan, if_pos rfl, scanShow, scanned]

/-- Words that are no options are the cards of `show`. -/
theorem scan_show_of_not_isOption (nonempty : words ≠ []) (noOption : ∀ word ∈ words, isOption word = false) :
    scan ("show" :: words) = .ok (.show words) := by
  -- There is no `--` among the words, since that would be an option.
  have noDashes : ∀ word ∈ words, decide (word ≠ "--") = true := by
    intro word member
    have notDashWord := isOption_eq_false_iff.mp (noOption word member)
    exact decide_eq_true fun isDashes => notDashWord (isDashes ▸ isDashWord_dashes)
  have all : ahead words = words := List.takeWhile_eq_self_iff.mpr noDashes
  have none : behind words = [] := by
    rw [behind, List.dropWhile_eq_nil_iff.mpr noDashes]
    rfl
  have noneFound : words.find? isOption = Option.none :=
    find?_isOption_eq_none_iff.mpr fun word member => isOption_eq_false_iff.mp (noOption word member)
  apply scan_show _ nonempty
  rw [scanCards_eq, all, none, noneFound, List.append_nil]

/-- Behind `--` all words are the cards of `show`. -/
theorem scan_show_dashes (nonempty : words ≠ []) : scan ("show" :: "--" :: words) = .ok (.show words) :=
  scan_show (scanCards_dashes words) nonempty

/-- What comes of the words after `show`: the first option in front of `--` decides, and where there is none, the cards
do. -/
theorem scan_show_eq (words : List String) :
    scan ("show" :: words) =
      match (ahead words).find? isOption with
      | some word => .error (stopAt .show word)
      | none => if ahead words ++ behind words = [] then .error .noCards
          else .ok (.show (ahead words ++ behind words)) := by
  rw [scan, if_pos rfl, scanShow, scanCards_eq]
  cases (ahead words).find? isOption with
  | some first => rfl
  | none =>
    cases ahead words ++ behind words with
    | nil => rfl
    | cons card cards => rfl

theorem scan_show_eq_ok_iff {cards : List String} :
    scan ("show" :: words) = .ok (.show cards) ↔
      (∀ word ∈ ahead words, ¬ IsDashWord word) ∧ ahead words ++ behind words ≠ [] ∧
        cards = ahead words ++ behind words := by
  rw [scan_show_eq, ← find?_isOption_eq_none_iff]
  cases (ahead words).find? isOption with
  | some first => simp
  | none =>
    by_cases noCards : ahead words ++ behind words = []
    · simp [noCards]
    · simp only [if_neg noCards, Except.ok.injEq, show.injEq, true_and]
      exact ⟨fun same => ⟨noCards, same.symm⟩, fun same => same.2.symm⟩

/-- The command lines after `show` that are refused: there is no card, or there is an option in front of `--`, and then
the first one decides why. -/
theorem scan_show_eq_error_iff {stop : Stop} :
    scan ("show" :: words) = .error stop ↔
      ((∀ word ∈ ahead words, ¬ IsDashWord word) ∧ ahead words ++ behind words = [] ∧ stop = .noCards) ∨
        ∃ word, IsFirstDashWord (ahead words) word ∧ stop = stopAt .show word := by
  simp only [← find?_isOption_eq_none_iff, ← find?_isOption_eq_some_iff]
  rw [scan_show_eq]
  cases (ahead words).find? isOption with
  | some first =>
    constructor
    · intro refused
      exact Or.inr ⟨first, rfl, (Except.error.inj refused).symm⟩
    · rintro (⟨noOption, -⟩ | ⟨word, isFirst, rfl⟩)
      · contradiction
      · rw [Option.some.inj isFirst]
  | none =>
    by_cases noCards : ahead words ++ behind words = []
    · simp [noCards, eq_comm]
    · simp [noCards]

/-! ### All command lines -/

theorem scanColors_eq_ok_iff {command : Command} :
    scanColors words = .ok command ↔ command = .colors ∧ (words = [] ∨ words = ["--"]) := by
  cases words with
  | nil => simp [scanColors, eq_comm]
  | cons word words =>
    by_cases final : word = "--" ∧ words = []
    · simp [scanColors, final, eq_comm]
    · simp [scanColors, final]

/-- A command line that is understood has the name of its command in front. -/
theorem exists_words_of_scan_eq_ok {command : Command} (understood : scan arguments = .ok command) :
    (∃ words, arguments = "show" :: words) ∨
      ∃ words, arguments = "colors" :: words ∧ scanColors words = .ok command := by
  cases arguments with
  | nil => contradiction
  | cons word words =>
    by_cases isShow : word = "show"
    · exact Or.inl ⟨words, by rw [isShow]⟩
    by_cases isColors : word = "colors"
    · rw [scan, if_neg isShow, if_pos isColors] at understood
      exact Or.inr ⟨words, by rw [isColors], understood⟩
    -- Whatever else the first word is, the scan stops.
    · rw [scan, if_neg isShow, if_neg isColors] at understood
      split_ifs at understood

/-- The command lines that list the colors. -/
theorem scan_eq_colors_iff : scan arguments = .ok .colors ↔ arguments = ["colors"] ∨ arguments = ["colors", "--"] := by
  constructor
  · intro understood
    rcases exists_words_of_scan_eq_ok understood with ⟨words, rfl⟩ | ⟨words, rfl, scanned⟩
    · rw [scan_show_eq] at understood
      split at understood
      · contradiction
      · split_ifs at understood
        exact Command.noConfusion (Except.ok.inj understood)
    · obtain ⟨-, rfl | rfl⟩ := scanColors_eq_ok_iff.mp scanned
      · exact Or.inl rfl
      · exact Or.inr rfl
  · rintro (rfl | rfl)
    · rfl
    · rfl

/-- The command lines that show cards. -/
theorem scan_eq_show_iff {cards : List String} :
    scan arguments = .ok (.show cards) ↔
      ∃ words, arguments = "show" :: words ∧ (∀ word ∈ ahead words, ¬ IsDashWord word) ∧
        ahead words ++ behind words ≠ [] ∧ cards = ahead words ++ behind words := by
  constructor
  · intro understood
    rcases exists_words_of_scan_eq_ok understood with ⟨words, rfl⟩ | ⟨words, -, scanned⟩
    · exact ⟨words, rfl, scan_show_eq_ok_iff.mp understood⟩
    · obtain ⟨isColors, -⟩ := scanColors_eq_ok_iff.mp scanned
      contradiction
  · rintro ⟨words, rfl, accepted⟩
    exact scan_show_eq_ok_iff.mpr accepted

/-- **The command lines that are understood.** The colors are listed for `colors` alone or with a final `--`, and for
nothing else. Cards are shown for `show` and words of which none in front of the first `--` has a dash in front and goes
on, and of which at least one is left without that `--`; the words that are left are the cards, as they are and in their
order. After `show`, anything else is refused: for want of a card where no word in front of `--` has a dash in front
and goes on, and otherwise for the first such word alone. That word asks for help if it is `-h` or `--help`, and is an
unknown argument if it begins with neither. Behind `--`, all words are cards. -/
theorem scan_exactly :
    (∀ arguments, scan arguments = .ok .colors ↔ arguments = ["colors"] ∨ arguments = ["colors", "--"]) ∧
    (∀ arguments cards, scan arguments = .ok (.show cards) ↔
      ∃ words, arguments = "show" :: words ∧ (∀ word ∈ ahead words, ¬ IsDashWord word) ∧
        ahead words ++ behind words ≠ [] ∧ cards = ahead words ++ behind words) ∧
    (∀ words stop, scan ("show" :: words) = .error stop ↔
      ((∀ word ∈ ahead words, ¬ IsDashWord word) ∧ ahead words ++ behind words = [] ∧ stop = .noCards) ∨
        ∃ word, IsFirstDashWord (ahead words) word ∧ stop = stopAt .show word) ∧
    stopAt .show "-h" = .help .show ∧ stopAt .show "--help" = .help .show ∧
    (∀ word, stopAt .show word = .unknownArgument ∨
      "-h".toList <+: word.toList ∨ "--help".toList <+: word.toList) ∧
    ∀ card cards, scan ("show" :: "--" :: card :: cards) = .ok (.show (card :: cards)) := by
  refine ⟨fun arguments => scan_eq_colors_iff, fun arguments cards => scan_eq_show_iff,
    fun words stop => scan_show_eq_error_iff, rfl, rfl, stopAt_eq_unknownArgument_or .show, ?_⟩
  intro card cards
  exact scan_show_dashes (List.cons_ne_nil card cards)

end Uno.Command
