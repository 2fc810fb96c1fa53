import Uno.Proofs.Card.RoundTrip

/-!
# Canonical texts

A card can be typed in many ways: in capital or small letters, with more or fewer blanks, and in some cases with a
second tag for its color or its value. One of these texts is the one in which the card is written, and it stands
for all of them. It can be told from the others by looking at the text alone: it has no small letters, no blank but
the one space between two tags, and no tag that is read but never written.

## Main definitions

* `Card.Canonical` — the texts that need no change

## Main results

* `Color.eq_text_of_read`, `Value.eq_text_of_read` — a tag in capitals is the written one, unless it is one of three
* `Card.canonical_text`, `Card.Canonical.text_eq` — the canonical texts are the written ones
* `Card.written_form_canonical` — what a text becomes when it is read and written again
-/

namespace Uno

open Text (InCapitals IsWord)

/-! ### Tags in capitals -/

/-- A color tag in capitals is the written one, apart from the second tag of the last color. -/
theorem Color.eq_text_of_read {tag : String} {color : Color} (isColor : read tag = .ok color)
    (inCapitals : InCapitals tag) (notSecond : tag ≠ "WILD_DRAW_FOUR") : tag = color.text := by
  have listed : ∀ color ∈ all, ∀ s ∈ color.spellings,
      InCapitals s ∧ (s ≠ "WILD_DRAW_FOUR" → s = color.text) := by
    decide
  obtain ⟨s, spells, same⟩ := exists_spelling_of_read isColor
  obtain ⟨inCapitals', written⟩ := listed color (mem_all color) s spells
  obtain rfl := same.eq_of_inCapitals inCapitals inCapitals'
  exact written notSecond

/-- A value tag in capitals is the written one, apart from the other two tags of the last action. -/
theorem Value.eq_text_of_read {tag : String} {value : Value} (isValue : read tag = .ok value)
    (inCapitals : InCapitals tag) (notSecond : tag ≠ "DRAW2") (notThird : tag ≠ "+2") :
    tag = value.text := by
  have listed : ∀ act ∈ Action.all, ∀ s ∈ act.spellings,
      InCapitals s ∧ (s ≠ "DRAW2" → s ≠ "+2" → s = act.text) := by
    decide
  cases value with
  | number rank => exact eq_toString_of_read isValue
  | action act =>
    obtain ⟨s, spells, same⟩ := exists_spelling_of_read isValue
    obtain ⟨inCapitals', written⟩ := listed act (Action.mem_all act) s spells
    obtain rfl := same.eq_of_inCapitals inCapitals inCapitals'
    exact written notSecond notThird

/-- A tag of a value is not written if it is not the written one. -/
theorem Value.text_ne_of_read {tag : String} {value : Value} (isValue : read tag = .ok value)
    (notWritten : value.text ≠ tag) (value' : Value) : value'.text ≠ tag := by
  intro written
  have readBack := ofTag?_text value'
  rw [written, read_eq_ok_iff.mp isValue] at readBack
  obtain rfl := Option.some.inj readBack
  exact notWritten written

namespace Card

/-! ### The written form -/

theorem inCapitals_color_text (color : Color) : InCapitals color.text := by
  have listed : ∀ color ∈ Color.all, InCapitals color.text := by decide
  exact listed color (Color.mem_all color)

theorem inCapitals_value_text (value : Value) : InCapitals value.text := by
  cases value with
  | number rank =>
    intro c member
    have digit : 48 ≤ c.toNat ∧ c.toNat ≤ 57 :=
      Char.isDigit_iff_toNat.mp (Text.isDigit_of_mem_toString member)
    rw [← Bool.not_eq_true, Text.isLower_iff_toNat]
    omega
  | action act =>
    have listed : ∀ act ∈ Action.all, InCapitals act.text := by decide
    exact listed act (Action.mem_all act)

theorem inCapitals_text (card : Card) : InCapitals card.text := by
  obtain ⟨color, value⟩ := card
  cases value with
  | none => exact inCapitals_color_text color
  | some value =>
    have space : InCapitals " " := by decide
    rw [text, Text.inCapitals_append_iff, Text.inCapitals_append_iff]
    exact ⟨⟨inCapitals_color_text color, space⟩, inCapitals_value_text value⟩

theorem isWord_color_text (color : Color) : IsWord color.text :=
  Color.isWord_of_read (Color.read_eq_ok_iff.mpr (Color.ofTag?_text color))

theorem isWord_value_text (value : Value) : IsWord value.text :=
  Value.isWord_of_read (Value.read_eq_ok_iff.mpr (Value.ofTag?_text value))

/-- The words of a written card are the text of its color and the text of its value, if it has one. -/
theorem words_text (card : Card) :
    Text.words card.text = card.color.text :: (card.value.map Value.text).toList := by
  obtain ⟨color, value⟩ := card
  have isColor := isWord_color_text color
  cases value with
  | none => exact Text.words_of_isWord isColor
  | some value =>
    have joined : Card.text ⟨color, some value⟩ = Text.joinWords [color.text, value.text] :=
      (Text.joinWords_pair color.text value.text).symm
    rw [joined, Text.words_joinWords (by simpa using And.intro isColor (isWord_value_text value))]
    rfl

/-! ### Canonical texts -/

/-- A text that is read as a card and needs no change to be the text of that card. -/
structure Canonical (text : String) : Prop where
  /-- The text is read as a card. -/
  isCard : ∃ card, read text = .ok card
  /-- None of its letters is small. -/
  inCapitals : InCapitals text
  /-- There is no blank in it, or one space between two words. -/
  spacing : (∀ c ∈ text.toList, Text.isBlank c = false) ∨
    ∃ first second, text = first ++ " " ++ second ∧ IsWord first ∧ IsWord second
  /-- Its first word is not the tag of a color that is never written. -/
  colorTag : (Text.words text)[0]? ≠ some "WILD_DRAW_FOUR"
  /-- Its second word, if there is one, is not a tag of a value that is never written. -/
  valueTag : (Text.words text)[1]? ≠ some "DRAW2" ∧ (Text.words text)[1]? ≠ some "+2"

variable {text : String} {card : Card}

/-- A written card is canonical. -/
theorem canonical_text (card : Card) : Canonical card.text where
  isCard := ⟨card, card.read_text⟩
  inCapitals := card.inCapitals_text
  spacing := by
    obtain ⟨color, value⟩ := card
    cases value with
    | none => exact Or.inl (isWord_color_text color).noBlank
    | some value => exact Or.inr ⟨_, _, rfl, isWord_color_text color, isWord_value_text value⟩
  colorTag := by
    have listed : ∀ color ∈ Color.all, color.text ≠ "WILD_DRAW_FOUR" := by decide
    rw [words_text]
    simpa using listed card.color (Color.mem_all card.color)
  valueTag := by
    have isValue : Value.read "DRAW2" = .ok (.action .drawTwo) := by decide
    have isValue' : Value.read "+2" = .ok (.action .drawTwo) := by decide
    have notSecond := Value.text_ne_of_read isValue (by decide)
    have notThird := Value.text_ne_of_read isValue' (by decide)
    rw [words_text]
    cases card.value with
    | none => simp
    | some value => simpa using And.intro (notSecond value) (notThird value)

/-- A canonical text has no other blanks than the join of its words. -/
theorem Canonical.joinWords_words (canonical : Canonical text) :
    Text.joinWords (Text.words text) = text := by
  rcases canonical.spacing with noBlank | ⟨first, second, rfl, isFirst, isSecond⟩
  · by_cases empty : text.toList = []
    · rw [String.toList_eq_nil_iff.mp empty]
      rfl
    · rw [Text.words_of_isWord ⟨empty, noBlank⟩, Text.joinWords_singleton]
  · rw [← Text.joinWords_pair, Text.words_joinWords (by simpa using And.intro isFirst isSecond)]

/-- A canonical text is the text of the card that it is read as. -/
theorem Canonical.text_eq (canonical : Canonical text) (isCard : read text = .ok card) :
    card.text = text := by
  have spelled := read_eq_ok_iff.mp isCard
  have whole := canonical.joinWords_words
  have inCapitals := canonical.inCapitals
  have notLong := canonical.colorTag
  obtain ⟨notSecond, notThird⟩ := canonical.valueTag
  generalize Text.words text = ws at spelled whole notLong notSecond notThird
  -- The text is a tag, or two tags with a space between them, and in capitals a tag is the written one.
  cases spelled with
  | @plain tag color isColor =>
    rw [Text.joinWords_singleton] at whole
    rw [← whole] at inCapitals ⊢
    exact (Color.eq_text_of_read isColor inCapitals (by simpa using notLong)).symm
  | @valued tag valueTag color value isColor isValue =>
    rw [← whole, Text.joinWords_pair, Text.inCapitals_append_iff, Text.inCapitals_append_iff] at inCapitals
    obtain ⟨⟨colorCapitals, -⟩, valueCapitals⟩ := inCapitals
    have colorWritten := Color.eq_text_of_read isColor colorCapitals (by simpa using notLong)
    have valueWritten :=
      Value.eq_text_of_read isValue valueCapitals (by simpa using notSecond) (by simpa using notThird)
    rw [← whole, Text.joinWords_pair, colorWritten, valueWritten]
    rfl

/-- **Canonical texts.** If a text is read as a card, the text of that card is read as the same card, and two
texts that are read as cards are read as the same card exactly when the texts of these cards are the same. A text is
that of the card that it is read as exactly when it is canonical: it is read as a card, it has no small letters and
no blanks apart from one space between two words, and none of its tags is `WILD_DRAW_FOUR`, `DRAW2` or `+2`. -/
theorem written_form_canonical :
    (∀ text card, read text = .ok card → read card.text = read text) ∧
    (∀ text text' card card', read text = .ok card → read text' = .ok card' →
      (read text = read text' ↔ card.text = card'.text)) ∧
    ∀ text, (∃ card, read text = .ok card ∧ card.text = text) ↔ Canonical text := by
  refine ⟨?_, ?_, ?_⟩
  · intro text card isCard
    rw [card.read_text, isCard]
  · intro text text' card card' isCard isCard'
    rw [isCard, isCard', Except.ok.injEq]
    constructor
    · intro same
      rw [same]
    · intro same
      exact text_injective same
  · intro text
    constructor
    · intro written
      obtain ⟨card, -, rfl⟩ := written
      exact card.canonical_text
    · intro canonical
      obtain ⟨card, isCard⟩ := canonical.isCard
      exact ⟨card, isCard, canonical.text_eq isCard⟩

end Card

end Uno
