import Uno.Color
import Uno.Value

/-!
# Cards

A card has a color and perhaps a value. In a deck it is the wild cards that have none, but nothing forbids a wild card
with a value or a colored card without one: a card is any such pair, and whether a deck contains it is not asked here.

A card is written as the text of its color, followed by one space and the text of its value if it has one.
The line that describes a card adds color and value by name, in three columns between tabs.

## Main definitions

* `Card` — a color and perhaps a value
* `Card.colored`, `Card.wild`, `Card.wildDrawFour` — the cards of a deck
* `Card.text`, `Card.line` — the written form and the descriptive line
* `Card.code` — a number by which cards are told apart

## Main results

* `Card.code_injective` — cards with one code are one card
-/

namespace Uno

/-- A card: a color and perhaps a value. -/
structure Card where
  color : Color
  value : Option Value
  deriving DecidableEq, Repr

/-- The place of a color in the order of colors. -/
def Color.code : Color → Nat
  | .red => 0
  | .blue => 1
  | .green => 2
  | .yellow => 3
  | .wild => 4
  | .wildDrawFour => 5

/-- The place of an action in the order of actions. -/
def Action.code : Action → Nat
  | .skip => 0
  | .reverse => 1
  | .drawTwo => 2

/-- The place of a value among all values, numbers first. -/
def Value.code : Value → Nat
  | .number rank => rank.val
  | .action act => 256 + act.code

namespace Card

/-- A card of a color and a value. -/
def colored (color : Color) (value : Value) : Card :=
  ⟨color, some value⟩

/-- The plain wild card. -/
def wild : Card :=
  ⟨.wild, none⟩

/-- The wild card that makes the next player draw four. -/
def wildDrawFour : Card :=
  ⟨.wildDrawFour, none⟩

/-- The text of a card: its color and, after a space, its value if it has one. -/
def text (card : Card) : String :=
  match card.value with
  | none => card.color.text
  | some value => card.color.text ++ " " ++ value.text

/-- The text of the value of a card, or a dash. -/
def valueText (card : Card) : String :=
  match card.value with
  | none => "-"
  | some value => value.text

/-- The line that describes a card in three columns: its text, its color and its value. -/
def line (card : Card) : String :=
  card.text ++ "\tcolor=" ++ card.color.text ++ "\tvalue=" ++ card.valueText

/-- A number by which cards are told apart. It stands for the hash of a card, which is derived from its two fields: when
cards are compared by their hashes, all that is seen is whether these are equal, and hashes that do not collide are
equal for equal cards only. -/
def code (card : Card) : Nat :=
  match card.value with
  | none => 260 * card.color.code
  | some value => 260 * card.color.code + 1 + value.code

end Card

theorem Color.code_injective {left right : Color} (same : left.code = right.code) :
    left = right := by
  revert same
  cases left <;> cases right <;> simp [Color.code]

theorem Action.code_lt (act : Action) : act.code < 3 := by
  cases act <;> decide

theorem Action.code_injective {left right : Action} (same : left.code = right.code) :
    left = right := by
  revert same
  cases left <;> cases right <;> simp [Action.code]

/-- There are 259 values. -/
theorem Value.code_lt (value : Value) : value.code < 259 := by
  rcases value with rank | act
  · exact Nat.lt_trans rank.isLt (by decide)
  · have := act.code_lt
    simp only [Value.code]
    omega

theorem Value.code_injective {left right : Value} (same : left.code = right.code) :
    left = right := by
  rcases left with rank | act <;> rcases right with rank' | act' <;> simp only [Value.code] at same
  · exact congrArg Value.number (Fin.ext same)
  · have := rank.isLt
    omega
  · have := rank'.isLt
    omega
  · exact congrArg Value.action (Action.code_injective (Nat.add_left_cancel same))

/-- Cards with one code are one card: the color is the code divided by 260, and the remainder tells whether
there is a value and which. -/
theorem Card.code_injective {left right : Card} (same : left.code = right.code) :
    left = right := by
  obtain ⟨color, value⟩ := left
  obtain ⟨color', value'⟩ := right
  rcases value with _ | value <;> rcases value' with _ | value' <;> simp only [Card.code] at same
  · rw [Color.code_injective (Nat.eq_of_mul_eq_mul_left (by decide) same)]
  · have := value'.code_lt
    omega
  · have := value.code_lt
    omega
  · have small := value.code_lt
    have small' := value'.code_lt
    have sameColor : color = color' := Color.code_injective (by omega)
    have sameValue : value = value' := Value.code_injective (by omega)
    rw [sameColor, sameValue]

end Uno
