/-!
# Why a text is not a card

A text can fail to be a card in four ways. There may be no word in it, its first word may spell no color, its
second word may spell no value, or there may be words after the second. Where several faults meet, the first
of them in this order counts. An error carries the text it complains about exactly as it was given; only the
words after the second are joined by single spaces.

## Main definitions

* `CardError` — the four faults
* `CardError.message` — the sentence that is shown
* `CardError.payload?` — the text that is complained about
-/

namespace Uno

/-- Why a text is not a card. -/
inductive CardError
  /-- There is no word. -/
  | empty
  /-- A word spells no color. -/
  | unknownColor (tag : String)
  /-- A word spells no value. -/
  | unknownValue (tag : String)
  /-- Words follow the value. -/
  | trailingInput (rest : String)
  deriving DecidableEq, Repr

namespace CardError

/-- The sentence that is shown. -/
def message : CardError → String
  | .empty => "No card given"
  | .unknownColor tag => "Unknown card color `" ++ tag ++ "`"
  | .unknownValue tag => "Unknown card value `" ++ tag ++ "`"
  | .trailingInput rest => "Unexpected input after card value: `" ++ rest ++ "`"

/-- The text that is complained about, where there is one. -/
def payload? : CardError → Option String
  | .empty => none
  | .unknownColor tag => some tag
  | .unknownValue tag => some tag
  | .trailingInput rest => some rest

end CardError

end Uno
