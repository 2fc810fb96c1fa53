import Uno.Text.LetterCase

/-!
# Colors

A card shows one of six color tags. Four of them are colors proper; the other two, the wild card and the
wild card that makes the next player draw four, leave the color to whoever plays them. A color has one text
in which it is written and one or more spellings in which it is read. Letter case does not matter to a
reader, while blanks around a tag do: a tag with blanks is none.

## Main definitions

* `Color`, `Color.all` — the six tags, and their list in the order in which they are declared
* `Color.text` — the written form
* `Color.spellings`, `Color.ofTag?` — the forms that are read, and the reader
* `Color.isWild`, `Color.legend` — the wild tags, and the line that describes a color

## Main results

* `Color.mem_all` — the list of all colors is complete
* `Color.ofTag?_text` — the written form of a color is read as that color
-/

namespace Uno

/-- The color tag of a card. -/
inductive Color
  | red
  | blue
  | green
  | yellow
  | wild
  | wildDrawFour
  deriving DecidableEq, Repr

namespace Color

/-- The colors in their order. -/
def all : List Color :=
  [.red, .blue, .green, .yellow, .wild, .wildDrawFour]

/-- The name of a color in the structural notation. -/
def name : Color → String
  | .red => "Red"
  | .blue => "Blue"
  | .green => "Green"
  | .yellow => "Yellow"
  | .wild => "Wild"
  | .wildDrawFour => "WildDrawFour"

/-- The tag in which a color is written. -/
def text : Color → String
  | .red => "RED"
  | .blue => "BLUE"
  | .green => "GREEN"
  | .yellow => "YELLOW"
  | .wild => "WILD"
  | .wildDrawFour => "WILD4+"

/-- The tags in which a color is read, in capitals. -/
def spellings : Color → List String
  | .red => ["RED"]
  | .blue => ["BLUE"]
  | .green => ["GREEN"]
  | .yellow => ["YELLOW"]
  | .wild => ["WILD"]
  | .wildDrawFour => ["WILD4+", "WILD_DRAW_FOUR"]

/-- A color is wild when it leaves the color to whoever plays the card. -/
def isWild : Color → Bool
  | .wild | .wildDrawFour => true
  | .red | .blue | .green | .yellow => false

/-- The color that a tag spells in any mixture of capital and small letters. -/
def ofTag? (tag : String) : Option Color :=
  all.find? fun color => color.spellings.any (Text.sameLetters tag)

/-- A text is a color tag when it spells some color. -/
def isTag (tag : String) : Bool :=
  (ofTag? tag).isSome

/-- What is said of a text that spells no color when nothing is known of its purpose. -/
def noMatchMessage : String :=
  "Matching variant not found"

/-- The line that describes a color: its text, and a mark on the wild ones. -/
def legend (color : Color) : String :=
  if color.isWild then color.text ++ " (wild)" else color.text

/-- The list of all colors is complete. -/
theorem mem_all (color : Color) : color ∈ all := by
  cases color <;> decide

/-- The written form of a color is read as that color. -/
@[simp] theorem ofTag?_text (color : Color) : ofTag? color.text = some color := by
  cases color <;> decide

end Color

end Uno
