import Uno.Proofs.Card.Spelling
import Uno.Proofs.Entry.Segmentation

/-!
# Entries and the words they hold

Taking words apart into entries loses none of them and keeps their order, and it is the only admissible way to cut them.
An entry is written with one space between its words, and reading the text of an entry takes it apart at that space
again, so that an entry is read by its words.

## Main results

* `Entry.read_text` — the text of an entry is read by the words of the entry
* `Entry.ofWords_flatten_of_spelled` — spellings of cards, one after the other, are the entries
* `Entry.ofArguments_only_segmentation` — the entries of command-line arguments, and their texts
-/

namespace Uno.Entry

open Text (IsWord)

/-! ### The words of an entry -/

/-- The words of an entry are among the words that were taken apart. -/
theorem isWord_of_mem_ofWords {ws : List String} (allWords : ∀ word ∈ ws, IsWord word) {entry : Entry}
    (listed : entry ∈ ofWords ws) : ∀ word ∈ entry, IsWord word := by
  intro word member
  apply allWords
  rw [← flatten_ofWords ws]
  exact List.mem_flatten.mpr ⟨entry, listed, member⟩

theorem text_singleton (word : String) : text [word] = word :=
  Text.joinWords_singleton word

theorem text_pair (first second : String) : text [first, second] = first ++ " " ++ second :=
  Text.joinWords_pair first second

/-- The text of an entry is read by the words of the entry. -/
theorem read_text {entry : Entry} (allWords : ∀ word ∈ entry, IsWord word) :
    Card.read entry.text = Card.ofWords entry := by
  rw [Card.read, text, Text.words_joinWords allWords]

/-- Spellings of cards, one after the other, are taken apart where one ends and the next begins: what follows
is empty or begins with a color tag, and a value tag does not open an entry. -/
theorem ofWords_flatten_of_spelled {spellings : List (List String)} {cards : List Card}
    (spelled : List.Forall₂ Card.Spelled spellings cards) :
    ofWords spellings.flatten = spellings := by
  induction spelled with
  | nil => rfl
  | @cons spelling card spellings cards first later ih =>
    cases first with
    | @valued tag valueTag color value isColor isValue =>
      have joins := Color.isTag_of_read_value isValue
      rw [List.flatten_cons]
      exact (ofWords_cons_cons joins).trans (congrArg _ ih)
    | @plain tag color isColor =>
      cases later with
      | nil => rfl
      | @cons next card' _ _ second _ =>
        obtain ⟨tag', rest, rfl, opens⟩ := second.exists_tag
        rw [List.flatten_cons] at ih ⊢
        exact (ofWords_cons_tag opens).trans (congrArg _ ih)

/-! ### The entries of a command line -/

/-- **The entries of command-line arguments are the only admissible segmentation of their words.** They are an
admissible segmentation, and every admissible one is the one that they form. It is also the one to which the words lead
when they are put into entries one after the other, each into the last entry or a new one. The text of an entry is its
word, or its two words with one space between them, and the words of that text are those of the entry. -/
theorem ofArguments_only_segmentation (arguments : List String) :
    (∀ entries, IsSegmentation (arguments.flatMap Text.words) entries ↔ entries = ofArguments arguments) ∧
    (arguments.flatMap Text.words).foldl push [] = ofArguments arguments ∧
    ∀ entry ∈ ofArguments arguments,
      ((∃ word, entry = [word] ∧ entry.text = word) ∨
        ∃ first second, entry = [first, second] ∧ entry.text = first ++ " " ++ second) ∧
      Text.words entry.text = entry := by
  refine ⟨fun entries => isSegmentation_iff, foldl_push_eq_ofWords _, ?_⟩
  intro entry listed
  constructor
  · rcases eq_of_mem_ofWords listed with ⟨word, rfl⟩ | ⟨first, second, rfl, -⟩
    · exact Or.inl ⟨word, rfl, text_singleton word⟩
    · exact Or.inr ⟨first, second, rfl, text_pair first second⟩
  · apply Text.words_joinWords
    exact isWord_of_mem_ofWords Text.isWord_of_mem_flatMap_words listed

end Uno.Entry
