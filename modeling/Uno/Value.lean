import Uno.Action
import Uno.Text.Numeral

/-!
# Values

The value of a card is a number or an action. Numbers are not held to the ranks `0` to `9` of a printed deck;
they go up to 255. A number is written, and read, as its decimal numeral, so that no two tags mean the same
number. A numeral beyond 255 is no value, however long it is.

## Main definitions

* `Value` — a number up to 255, or an action
* `Value.text` — the written form
* `Value.ofTag?` — the value that a tag spells

## Main results

* `Value.ofTag?_text` — the written form of a value is read as that value
-/

namespace Uno

/-- The rank or action of a card. -/
inductive Value
  | number (rank : Fin 256)
  | action (act : Action)
  deriving DecidableEq, Repr

namespace Value

/-- The tag in which a value is written. -/
def text : Value → String
  | .number rank => toString rank.val
  | .action act => act.text

/-- The value that a tag spells: a numeral up to 255, or an action. -/
def ofTag? (tag : String) : Option Value :=
  match Text.numeral? tag with
  | some n => if bound : n < 256 then some (.number ⟨n, bound⟩) else none
  | none => (Action.ofTag? tag).map .action

/-- The written form of a value is read as that value. -/
@[simp] theorem ofTag?_text (value : Value) : ofTag? value.text = some value := by
  rcases value with rank | act
  · rw [text, ofTag?, Text.numeral?_toString]
    exact dif_pos rank.isLt
  · have noNumeral : Text.numeral? act.text = none := by cases act <;> decide
    rw [text, ofTag?, noNumeral, Action.ofTag?_text]
    rfl

end Value

end Uno
