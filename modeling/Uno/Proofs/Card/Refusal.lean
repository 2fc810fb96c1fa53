import Uno.Proofs.Card.Spelling
import Uno.Proofs.Text.Spacing

/-!
# The texts that are no cards, character by character

A text can have several faults at once, and one of them is reported. Said without words: a text of blanks has no
card in it. Otherwise the text begins, behind its first blanks, with a run of other characters. If this run is
no tag of a color, it is reported as it stands, whatever comes behind it. If it is one, the next run is looked at
in the same way, as a tag of a value. Only behind two tags a further run counts as a fault, and then everything
from there on is reported, with one space in place of each run of blanks.

## Main results

* `Card.refused_unknownColor_iff`, `Card.refused_unknownValue_iff`, `Card.refused_trailingInput_iff` — the words
  that are refused for a given reason
* `Card.read_eq_empty_iff`, `Card.read_eq_unknownColor_iff`, `Card.read_eq_unknownValue_iff`,
  `Card.read_eq_trailingInput_iff` — the texts that are refused for one of the four reasons
* `Card.read_eq_error_iff_blanks_and_tags` — these four together
-/

namespace Uno.Card

open Text (AllBlank IsWord Breaks SingleSpaced)

variable {ws : List String} {text word remainder : String}

/-! ### Words -/

theorem refused_empty_iff : Refused ws .empty ↔ ws = [] := by
  constructor
  · intro refused
    cases refused
    rfl
  · intro none
    rw [none]
    exact .empty

theorem refused_unknownColor_iff :
    Refused ws (.unknownColor word) ↔
      ∃ rest, ws = word :: rest ∧ ∀ color : Color, ¬ color.SpelledBy word := by
  constructor
  · intro refused
    cases refused with
    | color notTag => exact ⟨_, rfl, Color.isTag_eq_false_iff.mp notTag⟩
  · intro first
    obtain ⟨rest, rfl, noColor⟩ := first
    exact .color (Color.isTag_eq_false_iff.mpr noColor)

theorem refused_unknownValue_iff :
    Refused ws (.unknownValue word) ↔
      ∃ tag rest, ws = tag :: word :: rest ∧ (∃ color : Color, color.SpelledBy tag) ∧
        ∀ value : Value, ¬ value.SpelledBy word := by
  constructor
  · intro refused
    cases refused with
    | value isColor notValue =>
      exact ⟨_, _, rfl, ⟨_, Color.read_eq_ok_iff_spelledBy.mp isColor⟩,
        Value.read_eq_error_iff.mp notValue⟩
  · intro second
    obtain ⟨tag, rest, rfl, ⟨color, isColor⟩, noValue⟩ := second
    exact .value (Color.read_eq_ok_iff_spelledBy.mpr isColor) (Value.read_eq_error_iff.mpr noValue)

theorem refused_trailingInput_iff :
    Refused ws (.trailingInput remainder) ↔
      (∃ tag valueTag third rest, ws = tag :: valueTag :: third :: rest ∧
        (∃ color : Color, color.SpelledBy tag) ∧ ∃ value : Value, value.SpelledBy valueTag) ∧
      remainder = Text.joinWords (ws.drop 2) := by
  constructor
  · intro refused
    cases refused with
    | trailing isColor isValue =>
      exact ⟨⟨_, _, _, _, rfl, ⟨_, Color.read_eq_ok_iff_spelledBy.mp isColor⟩,
        ⟨_, Value.read_eq_ok_iff_spelledBy.mp isValue⟩⟩, rfl⟩
  · intro behind
    obtain ⟨⟨tag, valueTag, third, rest, rfl, ⟨color, isColor⟩, ⟨value, isValue⟩⟩, rfl⟩ := behind
    exact .trailing (Color.read_eq_ok_iff_spelledBy.mpr isColor) (Value.read_eq_ok_iff_spelledBy.mpr isValue)

/-! ### Characters -/

theorem read_eq_empty_iff : read text = .error .empty ↔ AllBlank text := by
  rw [read_eq_error_iff, refused_empty_iff]
  exact Text.words_eq_nil_iff

theorem read_eq_unknownColor_iff :
    read text = .error (.unknownColor word) ↔
      ∃ gap rest, text = gap ++ word ++ rest ∧ AllBlank gap ∧ IsWord word ∧ Breaks rest ∧
        ∀ color : Color, ¬ color.SpelledBy word := by
  rw [read_eq_error_iff, refused_unknownColor_iff]
  constructor
  · intro first
    obtain ⟨_, cut, noColor⟩ := first
    obtain ⟨gap, rest, whole, blank, isWord, breaks, -⟩ := Text.words_eq_cons_iff.mp cut
    exact ⟨gap, rest, whole, blank, isWord, breaks, noColor⟩
  · intro cut
    obtain ⟨gap, rest, whole, blank, isWord, breaks, noColor⟩ := cut
    exact ⟨_, Text.words_eq_cons_iff.mpr ⟨gap, rest, whole, blank, isWord, breaks, rfl⟩, noColor⟩

theorem read_eq_unknownValue_iff :
    read text = .error (.unknownValue word) ↔
      ∃ gap tag gap' rest, text = gap ++ tag ++ gap' ++ word ++ rest ∧
        AllBlank gap ∧ AllBlank gap' ∧ gap' ≠ "" ∧ IsWord word ∧ Breaks rest ∧
        (∃ color : Color, color.SpelledBy tag) ∧ ∀ value : Value, ¬ value.SpelledBy word := by
  rw [read_eq_error_iff, refused_unknownValue_iff]
  constructor
  · intro second
    obtain ⟨tag, _, cut, isColor, noValue⟩ := second
    obtain ⟨gap, gap', rest, whole, blank, -, blank', apart, isWord, breaks, -⟩ :=
      Text.words_eq_cons_cons_iff.mp cut
    exact ⟨gap, tag, gap', rest, whole, blank, blank', apart, isWord, breaks, isColor, noValue⟩
  · intro cut
    obtain ⟨gap, tag, gap', rest, whole, blank, blank', apart, isWord, breaks, isColor, noValue⟩ := cut
    obtain ⟨color, spelled⟩ := isColor
    refine ⟨tag, Text.words rest, Text.words_eq_cons_cons_iff.mpr ?_, ⟨color, spelled⟩, noValue⟩
    exact ⟨gap, gap', rest, whole, blank, spelled.isWord, blank', apart, isWord, breaks, rfl⟩

/-- Behind two tags there is a further word exactly if there is a further run of characters. -/
theorem exists_third_word_iff :
    (∃ tag valueTag third rest, Text.words text = tag :: valueTag :: third :: rest ∧
      (∃ color : Color, color.SpelledBy tag) ∧ ∃ value : Value, value.SpelledBy valueTag) ↔
    ∃ gap tag gap' valueTag gap'' third rest,
      text = gap ++ tag ++ gap' ++ valueTag ++ gap'' ++ third ++ rest ∧
      AllBlank gap ∧ AllBlank gap' ∧ gap' ≠ "" ∧ AllBlank gap'' ∧ gap'' ≠ "" ∧
      IsWord third ∧ Breaks rest ∧
      (∃ color : Color, color.SpelledBy tag) ∧ ∃ value : Value, value.SpelledBy valueTag := by
  constructor
  · intro behind
    obtain ⟨tag, valueTag, third, _, cut, isColor, isValue⟩ := behind
    obtain ⟨gap, gap', gap'', rest, whole, blank, -, blank', apart, -, blank'', apart', isThird,
      breaks, -⟩ := Text.words_eq_cons_cons_cons_iff.mp cut
    exact ⟨gap, tag, gap', valueTag, gap'', third, rest, whole, blank, blank', apart, blank'', apart',
      isThird, breaks, isColor, isValue⟩
  · intro cut
    obtain ⟨gap, tag, gap', valueTag, gap'', third, rest, whole, blank, blank', apart, blank'', apart',
      isThird, breaks, ⟨color, isColor⟩, ⟨value, isValue⟩⟩ := cut
    refine ⟨tag, valueTag, third, Text.words rest, Text.words_eq_cons_cons_cons_iff.mpr ?_,
      ⟨color, isColor⟩, ⟨value, isValue⟩⟩
    exact ⟨gap, gap', gap'', rest, whole, blank, isColor.isWord, blank', apart, isValue.isWord, blank'',
      apart', isThird, breaks, rfl⟩

theorem read_eq_trailingInput_iff :
    read text = .error (.trailingInput remainder) ↔
      (∃ gap tag gap' valueTag gap'' third rest,
        text = gap ++ tag ++ gap' ++ valueTag ++ gap'' ++ third ++ rest ∧
        AllBlank gap ∧ AllBlank gap' ∧ gap' ≠ "" ∧ AllBlank gap'' ∧ gap'' ≠ "" ∧
        IsWord third ∧ Breaks rest ∧
        (∃ color : Color, color.SpelledBy tag) ∧ ∃ value : Value, value.SpelledBy valueTag) ∧
      remainder ≠ "" ∧ SingleSpaced remainder ∧ Text.words remainder = (Text.words text).drop 2 := by
  have isWord_behind : ∀ word ∈ (Text.words text).drop 2, IsWord word :=
    fun _ member => Text.isWord_of_mem_words (List.mem_of_mem_drop member)
  rw [read_eq_error_iff, refused_trailingInput_iff, Text.eq_joinWords_iff isWord_behind,
    ← exists_third_word_iff]
  constructor
  · intro behind
    obtain ⟨⟨tag, valueTag, third, rest, cut, tags⟩, spaced, sameWords⟩ := behind
    refine ⟨⟨tag, valueTag, third, rest, cut, tags⟩, ?_, spaced, sameWords⟩
    -- An empty text would have no third word.
    intro empty
    rw [empty, cut] at sameWords
    exact List.cons_ne_nil third rest sameWords.symm
  · intro behind
    exact ⟨behind.1, behind.2.2⟩

/-- **The texts that are refused.** A text is refused as empty exactly when it consists of blanks. It is refused
for a color exactly when its first run of characters that are not blank is no tag of a color, for a value exactly
when the first run is a tag of a color and the second no tag of a value, and in both cases the run is reported
as it stands. It is refused for what stands behind the value exactly when two tags and a further run have been
found, and what is reported has the words from the third on, one space apart, and no other blanks. -/
theorem read_eq_error_iff_blanks_and_tags (text : String) :
    (read text = .error .empty ↔ AllBlank text) ∧
    (∀ word, read text = .error (.unknownColor word) ↔
      ∃ gap rest, text = gap ++ word ++ rest ∧ AllBlank gap ∧ IsWord word ∧ Breaks rest ∧
        ∀ color : Color, ¬ color.SpelledBy word) ∧
    (∀ word, read text = .error (.unknownValue word) ↔
      ∃ gap tag gap' rest, text = gap ++ tag ++ gap' ++ word ++ rest ∧
        AllBlank gap ∧ AllBlank gap' ∧ gap' ≠ "" ∧ IsWord word ∧ Breaks rest ∧
        (∃ color : Color, color.SpelledBy tag) ∧ ∀ value : Value, ¬ value.SpelledBy word) ∧
    ∀ remainder, read text = .error (.trailingInput remainder) ↔
      (∃ gap tag gap' valueTag gap'' third rest,
        text = gap ++ tag ++ gap' ++ valueTag ++ gap'' ++ third ++ rest ∧
        AllBlank gap ∧ AllBlank gap' ∧ gap' ≠ "" ∧ AllBlank gap'' ∧ gap'' ≠ "" ∧
        IsWord third ∧ Breaks rest ∧
        (∃ color : Color, color.SpelledBy tag) ∧ ∃ value : Value, value.SpelledBy valueTag) ∧
      remainder ≠ "" ∧ SingleSpaced remainder ∧ Text.words remainder = (Text.words text).drop 2 := by
  exact ⟨read_eq_empty_iff, fun _ => read_eq_unknownColor_iff, fun _ => read_eq_unknownValue_iff,
    fun _ => read_eq_trailingInput_iff⟩

end Uno.Card
