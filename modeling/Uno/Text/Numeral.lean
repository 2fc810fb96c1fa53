/-!
# Decimal numerals

A number has one numeral: its decimal digits, at least one, with no zero in front. Zero itself is written
`0`. Signs, separators, and digits outside ASCII have no place in a numeral. There is no bound on the length;
a reader that needs one compares the number that was read.

## Main definitions

* `Text.isNumeral` — the text is a numeral
* `Text.numeral?` — the number that a numeral denotes

## Main results

* `Text.numeral?_eq_some_iff` — what is read is the value of the digits, of numerals only
* `Text.numeral?_toString` — the digits in which a number is written are its numeral
-/

namespace Uno.Text

/-- A text is a numeral when it has at least one character, all of them digits, and the first is a zero only
in `0` itself. -/
def isNumeral (text : String) : Bool :=
  match text.toList with
  | [] => false
  | [digit] => digit.isDigit
  | first :: rest => first.isDigit && first != '0' && rest.all Char.isDigit

/-- The number that a text denotes if it is a numeral. -/
def numeral? (text : String) : Option Nat :=
  if isNumeral text then some (Nat.ofDigitChars 10 text.toList 0) else none

theorem numeral?_eq_some_iff {text : String} {n : Nat} :
    numeral? text = some n ↔ isNumeral text = true ∧ Nat.ofDigitChars 10 text.toList 0 = n := by
  simp [numeral?]

/-- The digits of a positive number do not begin with a zero. -/
theorem head?_toDigits {n : Nat} (positive : 0 < n) : (Nat.toDigits 10 n).head? ≠ some '0' := by
  induction n using Nat.strongRecOn with
  | ind n ih =>
    rw [Nat.toDigits_eq_if (by decide)]
    split
    · rename_i small
      have noZero : ∀ k < 10, 0 < k → [Nat.digitChar k].head? ≠ some '0' := by decide
      exact noZero n small positive
    · rename_i large
      have shorter := ih (n / 10) (by omega) (by omega)
      obtain ⟨digit, digits, written⟩ :=
        List.exists_cons_of_ne_nil (Nat.toDigits_ne_nil (n := n / 10) (b := 10))
      rw [written] at shorter ⊢
      exact shorter

/-- The numeral of a number is read as that number. -/
theorem numeral?_toString (n : Nat) : numeral? (toString n) = some n := by
  rw [numeral?_eq_some_iff]
  constructor
  · have digits : ∀ c ∈ Nat.toDigits 10 n, c.isDigit = true := fun c member =>
      Nat.isDigit_of_mem_toDigits (by decide) (by decide) member
    rcases Nat.eq_zero_or_pos n with rfl | positive
    · rfl
    · have first := head?_toDigits positive
      have nonempty : Nat.toDigits 10 n ≠ [] := Nat.toDigits_ne_nil
      unfold isNumeral
      rw [Nat.toString_eq_ofList_toDigits, String.toList_ofList]
      split <;> simp_all
  · rw [Nat.toString_eq_ofList_toDigits, String.toList_ofList, Nat.ofDigitChars_ten_toDigits]

end Uno.Text
