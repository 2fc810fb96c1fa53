import Uno.Proofs.Card.RoundTrip
import Uno.Proofs.Reading.Spelling

/-!
# What is printed is read back

The lines that a command line prints can be taken apart again, and their first columns are command-line arguments
that lead to the same lines. It does not matter whether they are given as arguments of their own, or joined to one
argument with blanks between them. Written cards do not run into each other, although a card without a value
leaves open whether one follows: the next card begins with a color tag, and no value is taken for that.

## Main results

* `Reading.lines_of_read` — arguments that are cards are read as these cards
* `Reading.ofArguments_of_setApart` — arguments may be joined by blanks
* `Reading.lines_read_back` — lines are taken apart and read back, and cards are written and read back
-/

namespace Uno.Reading

open Text (IsWord)

variable {arguments lines : List String} {cards : List Card}

/-- Spellings of cards, one after the other, are read as these cards. -/
theorem outcome_flatten_of_spelled {spellings : List (List String)}
    (allWords : ∀ word ∈ spellings.flatten, IsWord word)
    (spelled : List.Forall₂ Card.Spelled spellings cards) :
    (ofWords spellings.flatten).outcome = .ok cards := by
  rw [outcome_ofWords_eq_ok_iff allWords, Entry.ofWords_flatten_of_spelled spelled]
  exact spelled

/-- Arguments that are cards are read as these cards. -/
theorem lines_of_read
    (areCards : List.Forall₂ (fun text card => Card.read text = .ok card) arguments cards) :
    (ofArguments arguments).lines = .ok (cards.map Card.line) := by
  have spelled : List.Forall₂ Card.Spelled (arguments.map Text.words) cards := by
    rw [List.forall₂_map_left_iff]
    exact areCards.imp fun _ _ => Card.read_eq_ok_iff.mp
  have allWords : ∀ word ∈ (arguments.map Text.words).flatten, IsWord word := by
    rw [← List.flatMap_def]
    exact Text.isWord_of_mem_flatMap_words
  rw [ofArguments_eq_ofWords, List.flatMap_def]
  exact lines_eq_ok_iff.mpr ⟨cards, outcome_flatten_of_spelled allWords spelled, rfl⟩

/-- Written cards are read back. -/
theorem lines_map_text (cards : List Card) :
    (ofArguments (cards.map Card.text)).lines = .ok (cards.map Card.line) := by
  apply lines_of_read
  rw [List.forall₂_map_left_iff, List.forall₂_same]
  intro card _
  exact card.read_text

/-- Arguments may as well be joined to one argument, with blanks between them. -/
theorem ofArguments_of_setApart {text : String} (apart : Text.SetApart arguments text) :
    ofArguments [text] = ofArguments arguments := by
  rw [ofArguments_eq_ofWords, ofArguments_eq_ofWords, List.flatMap_singleton, apart.words_eq]

example :
    (ofArguments ["WILD", "RED 7", "WILD 3"]).lines = (ofArguments ["WILD\tRED 7 \n WILD 3"]).lines := by
  rfl

/-- The first columns of lines are the written cards. -/
theorem map_firstColumn_map_line (cards : List Card) :
    (cards.map Card.line).map Text.firstColumn = cards.map Card.text := by
  rw [List.map_map]
  apply List.map_congr_left
  intro card _
  exact card.firstColumn_line

/-- **Printed lines.** Each line that is printed has two tabs and no line break, since its other characters are
visible ASCII and spaces. Its three columns are the text of a card, which is read as that card, the text of its
color, and the text of its value, or a dash exactly if there is none. Given back as arguments, or joined to one
argument by blanks, the first columns lead to the same lines. Any cards at all are printed by their own lines when
their texts are given, so the lines tell cards apart. -/
theorem lines_read_back :
    (∀ arguments lines : List String, (ofArguments arguments).lines = .ok lines →
      (∀ line ∈ lines,
        line.toList.count '\t' = 2 ∧
        (∀ c ∈ line.toList, c ≠ '\t' → 32 ≤ c.toNat ∧ c.toNat ≤ 126) ∧
        ∃ first third card, Text.columns line = [first, "color=" ++ card.color.text, third] ∧
          Card.read first = .ok card ∧ card.text = first ∧
          (∀ value, card.value = some value → third = "value=" ++ value.text) ∧
          (third = "value=-" ↔ card.value = none)) ∧
      (ofArguments (lines.map Text.firstColumn)).lines = .ok lines ∧
      ∀ text, Text.SetApart (lines.map Text.firstColumn) text → (ofArguments [text]).lines = .ok lines) ∧
    (∀ cards : List Card, (ofArguments (cards.map Card.text)).lines = .ok (cards.map Card.line)) ∧
    ∀ cards cards' : List Card,
      (ofArguments (cards.map Card.text)).lines = (ofArguments (cards'.map Card.text)).lines →
      cards = cards' := by
  refine ⟨?_, lines_map_text, ?_⟩
  · intro arguments lines success
    obtain ⟨cards, -, rfl⟩ := lines_eq_ok_iff.mp success
    have readBack : (ofArguments ((cards.map Card.line).map Text.firstColumn)).lines =
        .ok (cards.map Card.line) := by
      rw [map_firstColumn_map_line, lines_map_text]
    refine ⟨?_, readBack, ?_⟩
    · intro line printed
      obtain ⟨card, -, rfl⟩ := List.mem_map.mp printed
      refine ⟨card.count_tab_line, fun _ => card.printable_of_mem_line,
        card.text, "value=" ++ card.valueText, card, card.columns_line, card.read_text, rfl, ?_, ?_⟩
      · intro value hasValue
        rw [Card.valueText, hasValue]
      · have dash : "value=-" = "value=" ++ "-" := rfl
        rw [dash, String.append_right_inj, card.valueText_eq_dash_iff]
    · intro text apart
      rw [ofArguments_of_setApart apart, readBack]
  · intro cards cards' same
    rw [lines_map_text, lines_map_text] at same
    exact List.map_injective_iff.mpr (fun _ _ => Card.line_injective) (Except.ok.inj same)

end Uno.Reading
