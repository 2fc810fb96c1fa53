import Uno.Card.Format
import Uno.Proofs.Card.Canonical
import Uno.Proofs.Text.Slot

/-!
# Reading what has been set into a slot

A value and a card do not care about slots, and what is set of them is read back. A color fills its slot, and then it
matters who reads it. The reader of cards goes by words: spaces around a color are nothing to it, and stars make another
word of it. The reader of colors takes a text as it is and finds no color in either. When a color is cut short, what is
left of it is no color, because no tag of a color begins with another one. There is one exception, the last color, whose
first four letters are another wild card.

## Main results

* `Color.filler_not_mem_of_read` — no tag of a color has a character that fills slots
* `Color.read_take_text_iff` — the only color that is left of a shorter text
* `Card.read_of_isWord`, `Card.read_eq_ok_iff_of_isWord` — the card in a single word
* `Color.card_read_format`, `Color.card_read_format_starred`, `Color.card_read_format_iff_of_lt` — the card that is
  read from a color in a slot
* `Color.read_format_iff` — when the color itself is read from it
* `Card.read_format_slot` — all slots
-/

namespace Uno

open Text (IsWord Slot)

variable {slot : Slot}

/-! ### Fillings -/

/-- A character in front of the letters that is in no spelling of a color is in no tag of one. -/
theorem Color.not_mem_of_read {c : Char} (inFront : c.toNat < 65)
    (absent : ∀ color ∈ all, ∀ s ∈ color.spellings, c ∉ s.toList) {tag : String} {color : Color}
    (isColor : read tag = .ok color) : c ∉ tag.toList := by
  refine of_read (p := fun tag => c ∉ tag.toList) ?_ absent isColor
  intro left right same absent member
  -- The character has one case only, so it would be in the other text as well.
  have differs : ∀ {d e : Char}, Text.SameLetter d e → e ≠ c → d ≠ c := by
    rintro d e sameChar otherChar rfl
    exact otherChar (sameChar.symm.eq_of_toNat_lt inFront)
  have otherwise : ∀ d ∈ left.toList, d ≠ c :=
    same.forall_mem differs fun d member isChar => absent (isChar ▸ member)
  exact otherwise c member rfl

/-- No tag of a color has a character that fills slots. -/
theorem Color.filler_not_mem_of_read (slot : Slot) {tag : String} {color : Color} (isColor : read tag = .ok color) :
    slot.filler ∉ tag.toList := by
  unfold Slot.filler
  split
  · exact not_mem_of_read (by decide) (by decide) isColor
  · exact not_mem_of_read (by decide) (by decide) isColor

/-! ### Shorter texts -/

/-- What is left of the text of a color when it is cut short is a color in one case only. -/
theorem Color.read_take_text_iff {color color' : Color} {bound : Nat} (short : bound < color.text.length) :
    read (String.ofList (color.text.toList.take bound)) = .ok color' ↔
      color = .wildDrawFour ∧ bound = 4 ∧ color' = .wild := by
  have listed : ∀ color ∈ all, ∀ bound < color.text.length,
      ofTag? (String.ofList (color.text.toList.take bound)) =
        if color = .wildDrawFour ∧ bound = 4 then some .wild else none := by
    decide
  rw [read_eq_ok_iff, listed color (mem_all color) bound short]
  by_cases wild : color = .wildDrawFour ∧ bound = 4
  · simp [wild, eq_comm]
  · simp [wild, ← and_assoc]

/-- A text of one word is read as a card if the word is read as a color. -/
theorem Card.read_of_isWord {text : String} (isWord : IsWord text) :
    read text = (Color.read text).map fun color => ⟨color, none⟩ := by
  rw [read, Text.words_of_isWord isWord]
  cases h : Color.read text <;> simp [ofWords, h, bind, Except.bind, pure, Except.pure, Except.map]

theorem Card.read_eq_ok_iff_of_isWord {text : String} (isWord : IsWord text) {card : Card} :
    read text = .ok card ↔ ∃ color, Color.read text = .ok color ∧ ⟨color, none⟩ = card := by
  rw [read_of_isWord isWord]
  cases Color.read text <;> simp [Except.map]

/-! ### Colors in slots -/

namespace Color

variable {color : Color}

/-- Spaces around a color make no difference to the reader of cards. -/
theorem card_read_format (spaced : slot.style ≠ .starred) (admits : slot.Admits color.text) :
    Card.read (color.format slot) = .ok ⟨color, none⟩ := by
  have sameWords : Text.words (color.format slot) = Text.words color.text := by
    rw [format, Slot.words_set spaced, Slot.cut_of_admits admits, String.ofList_toList]
  rw [Card.read, sameWords]
  exact Card.read_text ⟨color, none⟩

/-- The reader of colors finds a color only where nothing has been filled in. -/
theorem read_format_iff (admits : slot.Admits color.text) :
    read (color.format slot) = .ok color ↔ slot.width ≤ color.text.length := by
  constructor
  · intro isColor
    by_contra short
    exact filler_not_mem_of_read slot isColor (Slot.filler_mem_set admits (by omega))
  · intro reaches
    rw [format, Slot.set_of_width_le admits reaches]
    exact read_eq_ok_iff.mpr (ofTag?_text color)

/-- What has been filled in becomes a part of the tag, which is refused as a whole. -/
theorem read_format_of_lt (admits : slot.Admits color.text) (short : color.text.length < slot.width) :
    read (color.format slot) = .error (.unknownColor (color.format slot)) := by
  refine (read_eq_ok_or (color.format slot)).resolve_left ?_
  rintro ⟨color', isColor⟩
  exact filler_not_mem_of_read slot isColor (Slot.filler_mem_set admits short)

/-- Stars around a color make one word with it, which the reader of cards refuses as a whole. -/
theorem card_read_format_starred (starred : slot.style = .starred) (admits : slot.Admits color.text)
    (short : color.text.length < slot.width) :
    Card.read (color.format slot) = .error (.unknownColor (color.format slot)) := by
  have visible : Text.isBlank slot.filler = false := by
    rw [Slot.filler, if_pos starred]
    rfl
  have isWord : IsWord (color.format slot) := by
    refine ⟨?_, Slot.noBlank_set admits visible (Card.isWord_color_text color).noBlank⟩
    exact List.ne_nil_of_mem (Slot.filler_mem_set admits short)
  rw [Card.read_of_isWord isWord, read_format_of_lt admits short]
  rfl

/-- A color that has been cut short is read as a card in one case only, and then as another one. -/
theorem card_read_format_iff_of_lt {bound : Nat} (spaced : slot.style ≠ .starred)
    (limited : slot.precision = some bound) (short : bound < color.text.length) {card : Card} :
    Card.read (color.format slot) = .ok card ↔ color = .wildDrawFour ∧ bound = 4 ∧ card = Card.wild := by
  have sameWords : Text.words (color.format slot) = Text.words (String.ofList (color.text.toList.take bound)) := by
    rw [format, Slot.words_set spaced, Slot.cut, limited]
  rw [Card.read, sameWords, ← Card.read]
  by_cases nothing : bound = 0
  · -- There is no word left.
    have noCard : Card.read "" = .error .empty := by rfl
    rw [nothing, List.take_zero, String.ofList_nil, noCard]
    simp
  · rw [Card.read_eq_ok_iff_of_isWord ((Card.isWord_color_text color).take nothing)]
    simp only [read_take_text_iff short]
    constructor
    · rintro ⟨_, ⟨isLast, four, rfl⟩, rfl⟩
      exact ⟨isLast, four, rfl⟩
    · rintro ⟨isLast, four, rfl⟩
      exact ⟨.wild, ⟨isLast, four, rfl⟩, rfl⟩

-- What is left of the last color is another wild card, wherever it stands in the slot.
example : Card.read (wildDrawFour.format ⟨.right, 9, some 4⟩) = .ok Card.wild := by
  rfl

end Color

/-- **Reading what has been set into a slot.** A card in a slot is its text, and it is read back, and so is a value. A
color is as long as the slot is wide or as what the precision has left of its text, whichever is longer. If nothing has
been cut off and spaces fill the slot, the color is read as the card without a value, whatever the width, while it is
read as a color exactly when the width leaves nothing to fill, and refused as it stands otherwise. If stars fill it, it
is refused as it stands as a card as well. If something has been cut off and spaces fill the slot, no card of the color
is read, and no card at all, except that four characters of the last color are read as the plain wild card. -/
theorem Card.read_format_slot (slot : Slot) :
    (∀ card : Card, card.format slot = card.text ∧ read (card.format slot) = .ok card) ∧
    (∀ value : Value, value.format slot = value.text ∧ Value.read (value.format slot) = .ok value) ∧
    ∀ color : Color,
      (slot.precision = none → (color.format slot).length = max slot.width color.text.length) ∧
      (∀ bound, slot.precision = some bound →
        (color.format slot).length = max slot.width (min bound color.text.length)) ∧
      (slot.style ≠ .starred → slot.Admits color.text →
        read (color.format slot) = .ok ⟨color, none⟩ ∧
        (Color.read (color.format slot) = .ok color ↔ slot.width ≤ color.text.length) ∧
        (color.text.length < slot.width →
          Color.read (color.format slot) = .error (.unknownColor (color.format slot)))) ∧
      (slot.style = .starred → slot.Admits color.text → color.text.length < slot.width →
        read (color.format slot) = .error (.unknownColor (color.format slot))) ∧
      ∀ bound, slot.style ≠ .starred → slot.precision = some bound → bound < color.text.length → ∀ card,
        (read (color.format slot) = .ok card → card.color ≠ color) ∧
        (read (color.format slot) = .ok card ↔ color = .wildDrawFour ∧ bound = 4 ∧ card = wild) := by
  refine ⟨?_, ?_, ?_⟩
  · intro card
    exact ⟨rfl, card.read_text⟩
  · intro value
    exact ⟨rfl, Value.read_eq_ok_iff.mpr (Value.ofTag?_text value)⟩
  · intro color
    refine ⟨?_, ?_, ?_, ?_, ?_⟩
    · intro unlimited
      exact Slot.length_set_of_none unlimited color.text
    · intro bound limited
      exact Slot.length_set_of_some limited color.text
    · intro spaced admits
      exact ⟨Color.card_read_format spaced admits, Color.read_format_iff admits, Color.read_format_of_lt admits⟩
    · intro starred admits short
      exact Color.card_read_format_starred starred admits short
    · intro bound spaced limited short card
      have exactly : read (color.format slot) = .ok card ↔ color = .wildDrawFour ∧ bound = 4 ∧ card = wild :=
        Color.card_read_format_iff_of_lt spaced limited short
      refine ⟨?_, exactly⟩
      intro isCard
      obtain ⟨rfl, -, rfl⟩ := exactly.mp isCard
      decide

end Uno
