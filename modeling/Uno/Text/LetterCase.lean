/-!
# Letter case

Tags may be typed in any mixture of capital and small letters. Only the letters `a` to `z` have two cases
here. A character outside ASCII equals nothing but itself, so that the long s or the Kelvin sign, which
Unicode's case folding takes for `s` and `k`, are not read as those letters.

## Main definitions

* `Text.capitals` — the characters of a text with `a` to `z` turned into capitals
* `Text.sameLetters` — equality of two texts up to the case of ASCII letters

## Main results

* `Text.sameLetters_iff` — two texts agree when their capitals do
-/

namespace Uno.Text

/-- The characters of a text with the letters `a` to `z` turned into capitals. -/
def capitals (text : String) : List Char :=
  text.toList.map Char.toUpper

/-- Two texts agree up to the case of ASCII letters. -/
def sameLetters (left right : String) : Bool :=
  capitals left == capitals right

theorem sameLetters_iff {left right : String} :
    sameLetters left right = true ↔ capitals left = capitals right := by
  simp [sameLetters]

end Uno.Text
