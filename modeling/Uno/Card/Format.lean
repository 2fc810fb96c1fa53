import Uno.Card
import Uno.Text.Slot

/-!
# Setting cards into slots

Only a color fills a slot. A value and a card keep their plain text, whatever slot they are set into.

## Main definitions

* `Color.format`, `Value.format`, `Card.format` — the text that appears in a slot
-/

namespace Uno

open Text (Slot)

/-- The text of a color, cut and filled as the slot asks. -/
def Color.format (slot : Slot) (color : Color) : String :=
  slot.set color.text

/-- The text of a value; the slot has no say. -/
def Value.format (_slot : Slot) (value : Value) : String :=
  value.text

/-- The text of a card; the slot has no say. -/
def Card.format (_slot : Slot) (card : Card) : String :=
  card.text

end Uno
