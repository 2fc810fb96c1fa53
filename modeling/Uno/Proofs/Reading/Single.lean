import Uno.Proofs.Card.RoundTrip
import Uno.Proofs.Reading.Spelling

/-!
# One text as a card and as a command line

A text can be read as a single card, or as the only argument of a command line. The two readers agree on texts
of one card and on texts without words. Where they differ, the reader of a single card stops at a word that the
reader of command lines takes for the beginning of the next card: a color tag in place of a value, or any word
behind a value. The command line is then read as the card in front of that word, followed by what remains of
the text from that word on.

## Main results

* `Reading.ofArguments_singleton`, `Reading.ofArguments_joinWords` — one argument is read by its words
* `Reading.lines_singleton` — the outcomes of the two readers, case by case
-/

namespace Uno.Reading

open Text (IsWord)

/-- A single argument is read by its words. -/
theorem ofArguments_singleton (text : String) : ofArguments [text] = ofWords (Text.words text) := by
  rw [ofArguments_eq_ofWords, List.flatMap_singleton]

/-- Words that are joined to one argument are read as if they came one by one. -/
theorem ofArguments_joinWords {ws : List String} (allWords : ∀ word ∈ ws, IsWord word) :
    ofArguments [Text.joinWords ws] = ofWords ws := by
  rw [ofArguments_singleton, Text.words_joinWords allWords]

/-- A command line is read as one card when its words spell that card. -/
theorem lines_ofWords_eq_singleton_iff {ws : List String} {card : Card}
    (allWords : ∀ word ∈ ws, IsWord word) :
    (ofWords ws).lines = .ok [card.line] ↔ Card.Spelled ws card := by
  constructor
  · intro oneLine
    obtain ⟨cards, isRead, lines⟩ := lines_eq_ok_iff.mp oneLine
    obtain ⟨card', rfl, sameLine⟩ := List.map_eq_singleton_iff.mp lines
    -- There is one entry, so it holds all the words.
    rw [outcome_ofWords_eq_ok_iff allWords, List.forall₂_cons_right_iff] at isRead
    obtain ⟨entry, entries, spelled, none, cut⟩ := isRead
    rw [List.forall₂_nil_right_iff] at none
    have whole := Entry.flatten_ofWords ws
    rw [cut, none, List.flatten_singleton] at whole
    rw [← whole, ← Card.line_injective sameLine]
    exact spelled
  · intro spelled
    have cut := Entry.ofWords_flatten_of_spelled (.cons spelled .nil)
    rw [List.flatten_singleton] at cut
    rw [ofWords, cut, ofEntries_cons_of_spelled spelled, lines_note]
    rfl

theorem lines_ofWords_eq_nil_iff {ws : List String} (allWords : ∀ word ∈ ws, IsWord word) :
    (ofWords ws).lines = .ok [] ↔ ws = [] := by
  constructor
  · intro noLine
    obtain ⟨cards, isRead, lines⟩ := lines_eq_ok_iff.mp noLine
    obtain rfl := List.map_eq_nil_iff.mp lines
    rw [outcome_ofWords_eq_ok_iff allWords, List.forall₂_nil_right_iff] at isRead
    have whole := Entry.flatten_ofWords ws
    rwa [isRead, List.flatten_nil, eq_comm] at whole
  · intro noWords
    rw [noWords]
    rfl

/-- **One text, two readers.** A text is a card exactly when the command line prints the one line of that card,
and it has no words exactly when the command line prints nothing. A text that is refused as a card for its color
fails as a command line for the same word, and so does one that is refused for a value that is no color tag. If
it is a color tag that stands in place of the value, or if there are words behind the value, then the command
line is read as the card in front, followed by the remaining words as a command line of their own. -/
theorem lines_singleton (text : String) :
    (∀ card, Card.read text = .ok card ↔ (ofArguments [text]).lines = .ok [card.line]) ∧
    (Card.read text = .error .empty ↔ (ofArguments [text]).lines = .ok []) ∧
    (∀ word, Card.read text = .error (.unknownColor word) →
      ∃ entry, (ofArguments [text]).lines = .error ⟨entry, .unknownColor word⟩) ∧
    (∀ word, Card.read text = .error (.unknownValue word) → Color.isTag word = false →
      ∃ entry, (ofArguments [text]).lines = .error ⟨entry, .unknownValue word⟩) ∧
    (∀ word, Card.read text = .error (.unknownValue word) → Color.isTag word = true →
      ∃ tag rest color, Text.words text = tag :: word :: rest ∧ Color.read tag = .ok color ∧
        (ofArguments [text]).lines =
          (ofArguments [Text.joinWords (word :: rest)]).lines.map (Card.line ⟨color, none⟩ :: ·)) ∧
    ∀ remainder, Card.read text = .error (.trailingInput remainder) →
      ∃ tag valueTag rest color value, Text.words text = tag :: valueTag :: rest ∧
        Color.read tag = .ok color ∧ Value.read valueTag = .ok value ∧
        remainder = Text.joinWords rest ∧
        (ofArguments [text]).lines =
          (ofArguments [remainder]).lines.map (Card.line ⟨color, some value⟩ :: ·) := by
  have allWords : ∀ word ∈ Text.words text, IsWord word := fun _ => Text.isWord_of_mem_words
  simp only [Card.read_eq_ok_iff, Card.read_eq_error_iff, ofArguments_singleton text]
  generalize Text.words text = ws at allWords ⊢
  refine ⟨fun card => (lines_ofWords_eq_singleton_iff allWords).symm, ?_, ?_, ?_, ?_, ?_⟩
  · rw [lines_ofWords_eq_nil_iff allWords]
    constructor
    · intro refused
      cases refused
      rfl
    · intro noWords
      rw [noWords]
      exact .empty
  · intro word refused
    cases refused with
    | color notTag =>
      rw [ofWords_cons_noColor allWords notTag]
      exact ⟨_, lines_refusal _ _⟩
  · intro word refused notTag
    cases refused with
    | @value tag word rest color isColor notValue =>
      rw [List.forall_mem_cons, List.forall_mem_cons] at allWords
      rw [ofWords_cons_noValue isColor allWords.2.1 notTag notValue]
      exact ⟨_, lines_refusal _ _⟩
  · intro word refused isTag
    cases refused with
    | @value tag word rest color isColor notValue =>
      -- The color tag ends the first entry, which is a card without a value.
      have closed : ∀ next ∈ (word :: rest).head?, Color.isTag next = true := by
        intro next first
        obtain rfl := Option.mem_some_iff.mp first
        exact isTag
      refine ⟨tag, rest, color, rfl, isColor, ?_⟩
      rw [ofArguments_joinWords (List.forall_mem_cons.mp allWords).2, ofWords_cons_plain isColor closed,
        lines_note]
  · intro remainder refused
    cases refused with
    | @trailing tag valueTag third rest color value isColor isValue =>
      rw [List.forall_mem_cons, List.forall_mem_cons] at allWords
      refine ⟨tag, valueTag, third :: rest, color, value, rfl, isColor, isValue, rfl, ?_⟩
      rw [ofArguments_joinWords allWords.2.2, ofWords_cons_valued isColor isValue, lines_note]

end Uno.Reading
