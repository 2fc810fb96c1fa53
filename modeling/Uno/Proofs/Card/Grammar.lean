import Uno.Proofs.Card.RoundTrip

/-!
# The texts of cards, character by character

The reader of cards works on words. Said without words, a text is read as a card when it consists of a tag of
the color and, if the card has a value, a tag of the value, with blanks around them. Between the two tags there
has to be a blank; elsewhere there may be none.

## Main results

* `Card.spelled_plain_iff`, `Card.spelled_valued_iff` — the words of a given card
* `Card.read_eq_ok_iff_blanks_and_tags` — the texts of a given card
-/

namespace Uno.Card

open Text (AllBlank)

variable {ws : List String} {color : Color} {value : Value}

theorem spelled_plain_iff :
    Spelled ws ⟨color, none⟩ ↔ ∃ tag, ws = [tag] ∧ Color.read tag = .ok color := by
  constructor
  · intro spelled
    cases spelled with
    | plain isColor => exact ⟨_, rfl, isColor⟩
  · intro tagged
    obtain ⟨tag, rfl, isColor⟩ := tagged
    exact .plain isColor

theorem spelled_valued_iff :
    Spelled ws ⟨color, some value⟩ ↔
      ∃ tag valueTag, ws = [tag, valueTag] ∧ Color.read tag = .ok color ∧
        Value.read valueTag = .ok value := by
  constructor
  · intro spelled
    cases spelled with
    | valued isColor isValue => exact ⟨_, _, rfl, isColor, isValue⟩
  · intro tagged
    obtain ⟨tag, valueTag, rfl, isColor, isValue⟩ := tagged
    exact .valued isColor isValue

/-- **The grammar of card texts.** A text is read as a card without a value exactly when it is a tag of the color
between two runs of blanks, which may be empty. It is read as a card with a value exactly when it is a tag of the
color and a tag of the value, with a run of blanks in front, between and behind, of which only the one between
must not be empty. Every color goes with every value. -/
theorem read_eq_ok_iff_blanks_and_tags (text : String) (color : Color) (value : Value) :
    (read text = .ok ⟨color, none⟩ ↔
      ∃ gap tag gap', text = gap ++ tag ++ gap' ∧ AllBlank gap ∧ AllBlank gap' ∧
        color.SpelledBy tag) ∧
    (read text = .ok ⟨color, some value⟩ ↔
      ∃ gap tag gap' valueTag gap'', text = gap ++ tag ++ gap' ++ valueTag ++ gap'' ∧
        AllBlank gap ∧ AllBlank gap' ∧ AllBlank gap'' ∧ gap' ≠ "" ∧
        color.SpelledBy tag ∧ value.SpelledBy valueTag) ∧
    read (color.text ++ " " ++ value.text) = .ok ⟨color, some value⟩ := by
  simp only [read_eq_ok_iff, ← Color.read_eq_ok_iff_spelledBy, ← Value.read_eq_ok_iff_spelledBy]
  refine ⟨?_, ?_, ?_⟩
  · rw [spelled_plain_iff]
    constructor
    · intro tagged
      obtain ⟨tag, oneWord, isColor⟩ := tagged
      obtain ⟨gap, gap', rfl, blank, -, blank'⟩ := Text.words_eq_singleton_iff.mp oneWord
      exact ⟨gap, tag, gap', rfl, blank, blank', isColor⟩
    · intro cut
      obtain ⟨gap, tag, gap', rfl, blank, blank', isColor⟩ := cut
      -- A tag is a word, so taking the text apart leaves it whole.
      have isWord := Color.isWord_of_read isColor
      exact ⟨tag, Text.words_eq_singleton_iff.mpr ⟨gap, gap', rfl, blank, isWord, blank'⟩, isColor⟩
  · rw [spelled_valued_iff]
    constructor
    · intro tagged
      obtain ⟨tag, valueTag, twoWords, isColor, isValue⟩ := tagged
      obtain ⟨gap, gap', gap'', rfl, blank, -, blank', apart, -, blank''⟩ :=
        Text.words_eq_pair_iff.mp twoWords
      exact ⟨gap, tag, gap', valueTag, gap'', rfl, blank, blank', blank'', apart, isColor, isValue⟩
    · intro cut
      obtain ⟨gap, tag, gap', valueTag, gap'', rfl, blank, blank', blank'', apart, isColor, isValue⟩ := cut
      have isWord := Color.isWord_of_read isColor
      have isWord' := Value.isWord_of_read isValue
      refine ⟨tag, valueTag, Text.words_eq_pair_iff.mpr ?_, isColor, isValue⟩
      exact ⟨gap, gap', gap'', rfl, blank, isWord, blank', apart, isWord', blank''⟩
  · exact read_eq_ok_iff.mp (read_text ⟨color, some value⟩)

end Uno.Card
