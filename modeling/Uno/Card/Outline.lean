import Uno.Card.Reader
import Uno.Text.Layout
import Uno.Text.Quoted

/-!
# The outline of what was read

The outcome of reading a tag or a card is shown in the structural notation: `Ok` with what was read, or `Err`
with the fault. Texts from outside stand in quotes, so an outline shows where such a text begins and ends.

## Main definitions

* `Color.outline`, `Value.outline`, `Card.outline`, `CardError.outline` — the structure of a value
* `outcomeOutline` — the structure of a success or a failure
-/

namespace Uno

open Text (Layout)

/-- The structure of a color is its name. -/
def Color.outline (color : Color) : String :=
  color.name

/-- The structure of a value: the name of its action, or its number. -/
def Value.outline (layout : Layout) : Value → String
  | .number rank => layout.call "Number" (toString rank.val)
  | .action act => act.name

/-- The structure of a card: a record of its color and its value. -/
def Card.outline (layout : Layout) (card : Card) : String :=
  layout.record "Card"
    [("color", card.color.outline),
      ("value", layout.optional (card.value.map (Value.outline layout)))]

variable [Text.Repertoire]

/-- The structure of a fault, with the text it complains about in quotes. -/
def CardError.outline (layout : Layout) : CardError → String
  | .empty => "Empty"
  | .unknownColor tag => layout.call "UnknownColor" (Text.quoted tag)
  | .unknownValue tag => layout.call "UnknownValue" (Text.quoted tag)
  | .trailingInput rest => layout.call "TrailingInput" (Text.quoted rest)

/-- The structure of the outcome of reading, given the structure of what can be read. -/
def outcomeOutline {α : Type} (layout : Layout) (outline : α → String) :
    Except CardError α → String
  | .ok item => layout.call "Ok" (outline item)
  | .error fault => layout.call "Err" (fault.outline layout)

/-- The outline of a text read as a color. -/
def Color.readOutline (text : String) : String :=
  outcomeOutline .compact Color.outline (Color.read text)

/-- The outline of a text read as a value. -/
def Value.readOutline (text : String) : String :=
  outcomeOutline .compact (Value.outline .compact) (Value.read text)

/-- The outline of a text read as a card, in either layout. -/
def Card.readOutline (layout : Layout) (text : String) : String :=
  outcomeOutline layout (Card.outline layout) (Card.read text)

end Uno
