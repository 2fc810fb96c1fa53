/-!
# Blank characters

Words are kept apart by blanks: the characters with the Unicode property `White_Space`. The property
holds of 25 characters, which lie in ten ranges of code points. It is wider than the class
`Char.isWhitespace`, which knows the ASCII space and four ASCII controls only.

## Main definitions

* `Text.blankRanges` — the ten ranges, each given by its first and its last code point
* `Text.isBlank` — membership of a character in one of the ranges

## Main results

* `Text.isBlank_iff` — a character is blank when its code point lies in one of the ranges
-/

namespace Uno.Text

/-- The ranges of code points with the property `White_Space`, in ascending order. -/
def blankRanges : List (Nat × Nat) :=
  [(0x0009, 0x000D), (0x0020, 0x0020), (0x0085, 0x0085), (0x00A0, 0x00A0), (0x1680, 0x1680),
    (0x2000, 0x200A), (0x2028, 0x2029), (0x202F, 0x202F), (0x205F, 0x205F), (0x3000, 0x3000)]

/-- A character is blank when its code point lies in one of the ranges. -/
def isBlank (c : Char) : Bool :=
  blankRanges.any fun (first, last) => first ≤ c.toNat && c.toNat ≤ last

theorem isBlank_iff {c : Char} :
    isBlank c = true ↔ ∃ range ∈ blankRanges, range.1 ≤ c.toNat ∧ c.toNat ≤ range.2 := by
  simp [isBlank]

end Uno.Text
