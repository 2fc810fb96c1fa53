import Uno.Card
import Uno.CardError
import Uno.Text.Words

/-!
# Reading a card

A text is read as a card word by word: the first word is the color, the second, if there is one, the value,
and there may be no third. How many blanks stand around the words does not matter. Reading stops at the first
fault, so a text with several faults is refused for the leftmost one.

## Main definitions

* `Color.read`, `Value.read` — a tag read alone
* `Card.ofWords` — a card from its words
* `Card.read` — a card from a text
* `Card.sameOutcome` — comparison of two readings

## Main results

* `Color.read_eq_ok_iff`, `Value.read_eq_ok_iff` — reading succeeds exactly on the tags
* `Card.sameOutcome_iff` — the comparison is equality
-/

namespace Uno

/-- The color that a tag spells. -/
def Color.read (tag : String) : Except CardError Color :=
  match Color.ofTag? tag with
  | some color => .ok color
  | none => .error (.unknownColor tag)

/-- The value that a tag spells. -/
def Value.read (tag : String) : Except CardError Value :=
  match Value.ofTag? tag with
  | some value => .ok value
  | none => .error (.unknownValue tag)

theorem Color.read_eq_ok_iff {tag : String} {color : Color} :
    Color.read tag = .ok color ↔ Color.ofTag? tag = some color := by
  unfold Color.read
  split <;> simp_all

theorem Value.read_eq_ok_iff {tag : String} {value : Value} :
    Value.read tag = .ok value ↔ Value.ofTag? tag = some value := by
  unfold Value.read
  split <;> simp_all

namespace Card

/-- The card with the given words. -/
def ofWords : List String → Except CardError Card
  | [] => throw .empty
  | [colorTag] => do
    let color ← Color.read colorTag
    return ⟨color, none⟩
  | [colorTag, valueTag] => do
    let color ← Color.read colorTag
    let value ← Value.read valueTag
    return ⟨color, some value⟩
  | colorTag :: valueTag :: extra :: more => do
    let _ ← Color.read colorTag
    let _ ← Value.read valueTag
    throw (.trailingInput (Text.joinWords (extra :: more)))

/-- The card that a text spells. -/
def read (text : String) : Except CardError Card :=
  ofWords (Text.words text)

/-- Two readings have the same outcome: one and the same card, or one and the same fault. -/
def sameOutcome : Except CardError Card → Except CardError Card → Bool
  | .ok left, .ok right => left == right
  | .error left, .error right => left == right
  | .ok _, .error _ | .error _, .ok _ => false

theorem sameOutcome_iff {left right : Except CardError Card} :
    sameOutcome left right = true ↔ left = right := by
  cases left <;> cases right <;> simp [sameOutcome]

end Card

end Uno
