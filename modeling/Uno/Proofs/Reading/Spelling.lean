import Mathlib.Data.List.Forall2
import Uno.Proofs.Reading.Step

/-!
# The command lines that can be read

The words of a command line can be read if and only if they are spellings of cards, one after the other, and
then there is only one way to cut them into spellings. The reading does not look for that cut. It forms the
entries by color tags alone and reads each entry afterwards, so two things have to be shown: a sequence of
spellings is cut into entries exactly where its spellings meet, and entries that are cards are spellings.

## Main results

* `Reading.outcome_ofEntries_eq_ok_iff` — all entries can be read when each of them spells its card
* `Reading.outcome_ofWords_eq_ok_iff` — words can be read when their entries spell the cards
* `Reading.lines_ok_iff_spellings` — the grammar of command lines, with the lines that are printed
-/

namespace Uno.Reading

open Text (IsWord)

/-- All entries can be read when each of them spells its card. -/
theorem outcome_ofEntries_eq_ok_iff {entries : List Entry} {cards : List Card}
    (allWords : ∀ entry ∈ entries, ∀ word ∈ entry, IsWord word) :
    (ofEntries entries).outcome = .ok cards ↔ List.Forall₂ Card.Spelled entries cards := by
  induction entries generalizing cards with
  | nil => simp [ofEntries, eq_comm]
  | cons entry entries ih =>
    rw [List.forall_mem_cons] at allWords
    rw [List.forall₂_cons_left_iff]
    rcases Card.spelled_or_refused entry with ⟨first, spelled⟩ | ⟨fault, refused⟩
    · rw [ofEntries_cons_of_spelled spelled, outcome_note_eq_ok_iff]
      constructor
      · intro goesOn
        obtain ⟨later, readLater, rfl⟩ := goesOn
        exact ⟨first, later, spelled, (ih allWords.2).mp readLater, rfl⟩
      · intro allSpelled
        obtain ⟨card, later, spelled', readLater, rfl⟩ := allSpelled
        obtain rfl := spelled.unique spelled'
        exact ⟨later, (ih allWords.2).mpr readLater, rfl⟩
    · rw [ofEntries_cons_of_refused allWords.1 refused]
      constructor
      · intro read
        contradiction
      · intro allSpelled
        obtain ⟨card, later, spelled, -, -⟩ := allSpelled
        -- No words are both spelled and refused.
        have both := spelled.ofWords_eq.symm.trans refused.ofWords_eq
        contradiction

/-- Words can be read when their entries spell the cards. -/
theorem outcome_ofWords_eq_ok_iff {ws : List String} {cards : List Card}
    (allWords : ∀ word ∈ ws, IsWord word) :
    (ofWords ws).outcome = .ok cards ↔ List.Forall₂ Card.Spelled (Entry.ofWords ws) cards :=
  outcome_ofEntries_eq_ok_iff fun _ => Entry.isWord_of_mem_ofWords allWords

/-- **The grammar of command lines.** The cards of a command line can be read exactly when its words are
spellings of cards, one after the other. There is then only one way to cut the words into spellings, and what is
printed is one line for each of them, in order: the text of its card, the text of its color, and the text of
its value or a dash. -/
theorem lines_ok_iff_spellings (arguments : List String) :
    ((∃ lines, (ofArguments arguments).lines = .ok lines) ↔
      ∃ spellings cards, List.Forall₂ Card.Spelled spellings cards ∧
        spellings.flatten = arguments.flatMap Text.words) ∧
    (∀ spellings cards spellings' cards', List.Forall₂ Card.Spelled spellings cards →
      List.Forall₂ Card.Spelled spellings' cards' →
      spellings.flatten = arguments.flatMap Text.words →
      spellings'.flatten = arguments.flatMap Text.words → spellings = spellings') ∧
    ∀ spellings cards, List.Forall₂ Card.Spelled spellings cards →
      spellings.flatten = arguments.flatMap Text.words →
      (ofArguments arguments).lines = .ok (cards.map fun card =>
        card.text ++ "\tcolor=" ++ card.color.text ++ "\tvalue=" ++
          match card.value with
          | none => "-"
          | some value => value.text) := by
  rw [ofArguments_eq_ofWords]
  have readWords (cards : List Card) :=
    @outcome_ofWords_eq_ok_iff _ cards (@Text.isWord_of_mem_flatMap_words arguments)
  -- A cut into spellings is the one into entries.
  have cut : ∀ spellings cards, List.Forall₂ Card.Spelled spellings cards →
      spellings.flatten = arguments.flatMap Text.words →
      Entry.ofWords (arguments.flatMap Text.words) = spellings := by
    intro spellings cards spelled whole
    rw [← whole]
    exact Entry.ofWords_flatten_of_spelled spelled
  have printed : ∀ spellings cards, List.Forall₂ Card.Spelled spellings cards →
      spellings.flatten = arguments.flatMap Text.words →
      (ofWords (arguments.flatMap Text.words)).lines = .ok (cards.map Card.line) := by
    intro spellings cards spelled whole
    refine lines_eq_ok_iff.mpr ⟨cards, (readWords cards).mpr ?_, rfl⟩
    rw [cut spellings cards spelled whole]
    exact spelled
  refine ⟨⟨?_, ?_⟩, ?_, printed⟩
  · intro readable
    obtain ⟨lines, success⟩ := readable
    obtain ⟨cards, isRead, -⟩ := lines_eq_ok_iff.mp success
    exact ⟨_, cards, (readWords cards).mp isRead, Entry.flatten_ofWords _⟩
  · intro spelling
    obtain ⟨spellings, cards, spelled, whole⟩ := spelling
    exact ⟨_, printed spellings cards spelled whole⟩
  · intro spellings cards spellings' cards' spelled spelled' whole whole'
    exact (cut spellings cards spelled whole).symm.trans (cut spellings' cards' spelled' whole')

end Uno.Reading
