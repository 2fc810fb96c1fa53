import Uno.Proofs.Tag

/-!
# What spells a card, and why other words do not

A card is spelled by a color tag alone, or by a color tag and a value tag. Any color goes with any value. Words
that spell no card are refused for one reason only, the first that is met from left to right. Both are stated
here as relations between words and outcomes, and the reader of cards decides them: a sequence of words is
either spelled or refused, and never both.

## Main definitions

* `Card.Spelled` — the words that spell a card
* `Card.Refused` — the words that spell none, and why

## Main results

* `Card.spelled_or_refused` — there is no third possibility
* `Card.ofWords_eq_ok_iff`, `Card.ofWords_eq_error_iff` — the reader decides between the two
-/

namespace Uno.Card

open Text (IsWord)

/-- The words that spell a card: a tag of its color, and behind it a tag of its value if it has one. -/
inductive Spelled : List String → Card → Prop
  | plain {tag : String} {color : Color} (isColor : Color.read tag = .ok color) :
    Spelled [tag] ⟨color, none⟩
  | valued {tag valueTag : String} {color : Color} {value : Value}
    (isColor : Color.read tag = .ok color) (isValue : Value.read valueTag = .ok value) :
    Spelled [tag, valueTag] ⟨color, some value⟩

/-- The words that spell no card, and why. -/
inductive Refused : List String → CardError → Prop
  | empty : Refused [] .empty
  | color {word : String} {rest : List String} (notTag : Color.isTag word = false) :
    Refused (word :: rest) (.unknownColor word)
  | value {tag word : String} {rest : List String} {color : Color}
    (isColor : Color.read tag = .ok color)
    (notValue : Value.read word = .error (.unknownValue word)) :
    Refused (tag :: word :: rest) (.unknownValue word)
  | trailing {tag valueTag third : String} {rest : List String} {color : Color} {value : Value}
    (isColor : Color.read tag = .ok color) (isValue : Value.read valueTag = .ok value) :
    Refused (tag :: valueTag :: third :: rest) (.trailingInput (Text.joinWords (third :: rest)))

variable {ws : List String} {card : Card} {fault : CardError}

/-- A spelling begins with a color tag. -/
theorem Spelled.exists_tag (spelled : Spelled ws card) :
    ∃ tag rest, ws = tag :: rest ∧ Color.isTag tag = true := by
  cases spelled with
  | plain isColor => exact ⟨_, _, rfl, Color.isTag_of_read isColor⟩
  | valued isColor _ => exact ⟨_, _, rfl, Color.isTag_of_read isColor⟩

/-- The parts of a spelling are words. -/
theorem Spelled.isWord (spelled : Spelled ws card) : ∀ word ∈ ws, IsWord word := by
  cases spelled with
  | plain isColor => simpa using Color.isWord_of_read isColor
  | valued isColor isValue =>
    simpa using And.intro (Color.isWord_of_read isColor) (Value.isWord_of_read isValue)

/-- Words spell a card, or they are refused. -/
theorem spelled_or_refused (ws : List String) :
    (∃ card, Spelled ws card) ∨ ∃ fault, Refused ws fault := by
  -- The words are tried from left to right, as they are read: a color, a value, and a word too many.
  rcases ws with _ | ⟨tag, rest⟩
  · exact Or.inr ⟨_, .empty⟩
  cases isTag : Color.isTag tag with
  | false => exact Or.inr ⟨_, .color isTag⟩
  | true =>
    obtain ⟨color, isColor⟩ := Color.isTag_iff.mp isTag
    rcases rest with _ | ⟨valueTag, rest⟩
    · exact Or.inl ⟨_, .plain isColor⟩
    rcases Value.read_eq_ok_or valueTag with ⟨value, isValue⟩ | notValue
    · rcases rest with _ | ⟨third, rest⟩
      · exact Or.inl ⟨_, .valued isColor isValue⟩
      · exact Or.inr ⟨_, .trailing isColor isValue⟩
    · exact Or.inr ⟨_, .value isColor notValue⟩

/-! ### The reader decides -/

theorem Spelled.ofWords_eq (spelled : Spelled ws card) : ofWords ws = .ok card := by
  cases spelled with
  | plain isColor => simp [ofWords, isColor, bind, Except.bind, pure, Except.pure]
  | valued isColor isValue => simp [ofWords, isColor, isValue, bind, Except.bind, pure, Except.pure]

theorem Refused.ofWords_eq (refused : Refused ws fault) : ofWords ws = .error fault := by
  cases refused with
  | empty => rfl
  | @color word rest notTag =>
    have noColor := Color.read_of_not_isTag notTag
    -- The equation of `ofWords` depends on how many words there are, up to three.
    rcases rest with _ | ⟨second, _ | ⟨third, others⟩⟩ <;> simp [ofWords, noColor, bind, Except.bind]
  | @value tag word rest color isColor notValue =>
    rcases rest with _ | ⟨third, others⟩ <;> simp [ofWords, isColor, notValue, bind, Except.bind]
  | trailing isColor isValue =>
    simp [ofWords, isColor, isValue, bind, Except.bind, throw, throwThe, MonadExceptOf.throw]

/-- Words spell one card at most. -/
theorem Spelled.unique {card' : Card} (spelled : Spelled ws card) (spelled' : Spelled ws card') :
    card = card' :=
  Except.ok.inj (spelled.ofWords_eq.symm.trans spelled'.ofWords_eq)

/-- The words that are accepted as a card are those that spell it. -/
theorem ofWords_eq_ok_iff : ofWords ws = .ok card ↔ Spelled ws card := by
  refine ⟨fun accepted => ?_, Spelled.ofWords_eq⟩
  rcases spelled_or_refused ws with ⟨card', spelled⟩ | ⟨fault, refused⟩
  · rw [spelled.ofWords_eq] at accepted
    obtain rfl := Except.ok.inj accepted
    exact spelled
  · rw [refused.ofWords_eq] at accepted
    contradiction

/-- The words that are refused are those that spell no card, for the reason that is given. -/
theorem ofWords_eq_error_iff : ofWords ws = .error fault ↔ Refused ws fault := by
  refine ⟨fun rejected => ?_, Refused.ofWords_eq⟩
  rcases spelled_or_refused ws with ⟨card, spelled⟩ | ⟨fault', refused⟩
  · rw [spelled.ofWords_eq] at rejected
    contradiction
  · rw [refused.ofWords_eq] at rejected
    obtain rfl := Except.error.inj rejected
    exact refused

variable {text : String}

/-- The texts that are read as a card are those whose words spell it. -/
theorem read_eq_ok_iff : read text = .ok card ↔ Spelled (Text.words text) card :=
  ofWords_eq_ok_iff

/-- The texts that are refused are those whose words are. -/
theorem read_eq_error_iff : read text = .error fault ↔ Refused (Text.words text) fault :=
  ofWords_eq_error_iff

end Uno.Card
