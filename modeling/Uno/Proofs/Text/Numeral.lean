import Mathlib.Data.Nat.Digits.Defs
import Uno.Proofs.Text.Words
import Uno.Text.Numeral

/-!
# Numerals and the numbers they denote

A numeral is read by its digits from left to right, and a number is written by its remainders from right to
left. The two are inverse to each other: once the digits that have been read denote a positive number, each
further digit is the last digit of the number read so far. A leading zero would break this, since it leaves
that number at zero; the numerals have none.

## Main results

* `Text.toDigits_ofDigitChars` — digits behind a positive number are its last digits
* `Text.numeral?_eq_some_iff_eq_toString` — the numeral of a number is the text in which it is written
* `Text.toString_inj` — numbers that are written alike are one number
* `Text.isWord_toString` — a written number is a word
* `Text.length_toString_le` — a small number is written with few digits
-/

namespace Uno.Text

theorem digitChar_toNat_sub {c : Char} (digit : c.isDigit = true) :
    Nat.digitChar (c.toNat - 48) = c := by
  have bounds : 48 ≤ c.toNat ∧ c.toNat ≤ 57 := Char.isDigit_iff_toNat.mp digit
  rw [← Char.toNat_inj, Nat.toNat_digitChar_of_lt_ten (by omega)]
  omega

/-- A digit that is read behind a number becomes its last digit. -/
theorem ofDigitChars_cons_eq (c : Char) (cs : List Char) (n : Nat) :
    Nat.ofDigitChars 10 (c :: cs) n = Nat.ofDigitChars 10 cs (10 * n + (c.toNat - 48)) :=
  Nat.ofDigitChars_cons

/-- Digits that are read behind a positive number are the last digits of the outcome. -/
theorem toDigits_ofDigitChars {cs : List Char} {n : Nat} (positive : 0 < n)
    (digits : ∀ c ∈ cs, c.isDigit = true) :
    Nat.toDigits 10 (Nat.ofDigitChars 10 cs n) = Nat.toDigits 10 n ++ cs := by
  induction cs generalizing n with
  | nil => simp
  | cons c cs ih =>
    have digit := digits c List.mem_cons_self
    have bounds : 48 ≤ c.toNat ∧ c.toNat ≤ 57 := Char.isDigit_iff_toNat.mp digit
    have small : c.toNat - 48 < 10 := by omega
    have written := Nat.toDigits_append_toDigits (by decide) positive small
    rw [Nat.toDigits_of_lt_base small, digitChar_toNat_sub digit] at written
    -- The number read so far stays positive, so the induction goes on with one more digit of it.
    rw [ofDigitChars_cons_eq, ih (by omega) fun d member => digits d (List.mem_cons_of_mem c member),
      ← written, List.append_assoc]
    rfl

/-- A numeral is the text in which the number that it denotes is written. -/
theorem toString_ofDigitChars {text : String} (numeral : isNumeral text = true) :
    toString (Nat.ofDigitChars 10 text.toList 0) = text := by
  rw [← String.toList_inj, Nat.toString_eq_ofList_toDigits, String.toList_ofList]
  unfold isNumeral at numeral
  split at numeral
  · contradiction
  -- A single digit may be zero.
  · rename_i digit single
    have bounds : 48 ≤ digit.toNat ∧ digit.toNat ≤ 57 := Char.isDigit_iff_toNat.mp numeral
    rw [single, ofDigitChars_cons_eq, Nat.ofDigitChars_nil, Nat.mul_zero, Nat.zero_add,
      Nat.toDigits_of_lt_base (by omega), digitChar_toNat_sub numeral]
  -- The first of several digits is not zero, so the others are read behind a positive number.
  · rename_i first others _ several
    rw [Bool.and_eq_true, Bool.and_eq_true, bne_iff_ne, List.all_eq_true] at numeral
    obtain ⟨⟨digit, notZero⟩, digits⟩ := numeral
    have bounds : 48 ≤ first.toNat ∧ first.toNat ≤ 57 := Char.isDigit_iff_toNat.mp digit
    have notCode : first.toNat ≠ 48 := fun code => notZero (Char.toNat_inj.mp code)
    rw [several, ofDigitChars_cons_eq, Nat.mul_zero, Nat.zero_add,
      toDigits_ofDigitChars (by omega) digits, Nat.toDigits_of_lt_base (by omega),
      digitChar_toNat_sub digit]
    rfl

/-- The numeral of a number is the text in which it is written, and nothing else. -/
theorem numeral?_eq_some_iff_eq_toString {text : String} {n : Nat} :
    numeral? text = some n ↔ text = toString n := by
  constructor
  · intro isNumber
    obtain ⟨numeral, rfl⟩ := numeral?_eq_some_iff.mp isNumber
    exact (toString_ofDigitChars numeral).symm
  · rintro rfl
    exact numeral?_toString n

/-- Numbers that are written alike are one number. -/
theorem toString_inj {n m : Nat} (same : toString n = toString m) : n = m := by
  have sameNumber : some n = some m := by
    rw [← numeral?_toString n, same, numeral?_toString]
  exact Option.some.inj sameNumber

/-- The characters in which a number is written are digits. -/
theorem isDigit_of_mem_toString {n : Nat} {c : Char} (member : c ∈ (toString n).toList) :
    c.isDigit = true := by
  rw [Nat.toString_eq_ofList_toDigits, String.toList_ofList] at member
  exact Nat.isDigit_of_mem_toDigits (by decide) (by decide) member

/-- A written number is a word. -/
theorem isWord_toString (n : Nat) : IsWord (toString n) := by
  refine ⟨?_, ?_⟩
  · rw [Nat.toString_eq_ofList_toDigits, String.toList_ofList]
    exact Nat.toDigits_ne_nil
  · intro c member
    have bounds : 48 ≤ c.toNat ∧ c.toNat ≤ 57 :=
      Char.isDigit_iff_toNat.mp (isDigit_of_mem_toString member)
    exact isBlank_of_visible (by omega)

/-- A number below a power of ten has no more digits than the exponent says. -/
theorem length_toString_le {n digits : Nat} (positive : 0 < digits) (small : n < 10 ^ digits) :
    (toString n).length ≤ digits := by
  rw [Nat.toString_eq_ofList_toDigits, String.length_ofList]
  exact Nat.toDigits_length 10 n digits positive small

end Uno.Text
