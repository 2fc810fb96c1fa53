import Uno.Text.Blank

/-!
# Words of a text

The words of a text are its longest runs of characters that are not blank, from left to right. Cutting a
text at every single blank leaves pieces, of which the empty ones lie between two neighbouring blanks or at
an end; dropping them leaves the words. How many blanks stand between two words, and which ones, is thereby
forgotten, and `joinWords` puts one space back everywhere.

## Main definitions

* `Text.wordChars` — the words of a sequence of characters
* `Text.words` — the words of a text
* `Text.joinWords` — the text with the given words, one space apart

## Main results

* `Text.wordChars_append_cons` — a blank cuts a text into two parts that are read apart from each other
* `Text.wordChars_eq_singleton` — a text without blanks is one word, unless it is empty
-/

namespace Uno.Text

/-- The words of a sequence of characters: its pieces between blanks, the empty pieces left out. -/
def wordChars (cs : List Char) : List (List Char) :=
  (cs.splitOnP isBlank).filter (!·.isEmpty)

/-- The words of a text, from left to right. -/
def words (text : String) : List String :=
  (wordChars text.toList).map String.ofList

/-- The text that consists of the given words with one space between neighbours. -/
def joinWords (ws : List String) : String :=
  " ".intercalate ws

@[simp] theorem wordChars_nil : wordChars [] = [] := rfl

/-- A blank cuts a text into two parts that are read apart from each other. -/
theorem wordChars_append_cons (before after : List Char) {blank : Char}
    (isBlank_blank : isBlank blank = true) :
    wordChars (before ++ blank :: after) = wordChars before ++ wordChars after := by
  simp [wordChars, List.splitOnP_append_cons before after isBlank_blank]

/-- A text without blanks is one word, unless it is empty. -/
theorem wordChars_eq_singleton {cs : List Char} (nonempty : cs ≠ [])
    (noBlank : ∀ c ∈ cs, isBlank c = false) : wordChars cs = [cs] := by
  simp [wordChars, List.splitOnP_eq_singleton noBlank, nonempty]

end Uno.Text
