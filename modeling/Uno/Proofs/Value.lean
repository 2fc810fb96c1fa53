import Uno.Proofs.Tag

/-!
# What is read as a value

A tag is a value in one of two ways. It is the text in which a number up to 255 is written, or it spells an action in
some letter case. Everything else is refused with the tag as it was given.

Digits need a closer look, since there can be any number of them while the numbers end at 255. Reading them one by one
within that range, and giving up at the first digit that leads out of it, accepts exactly those digits whose number is
in the range: a number that has left the range never comes back to it, as one more digit makes no number smaller. So
no row of digits is taken for the number that is left of it when what exceeds the range is dropped.

## Main definitions

* `Value.appendDigit` — one more digit behind a number, within the range of numbers
* `Value.Malformed` — texts that resemble values and are none

## Main results

* `Value.foldlM_appendDigit` — reading digits within the range is reading them without it and comparing at the end
* `Value.read_of_digits` — what comes of a row of digits
* `Value.Malformed.read_eq` — texts that resemble values are refused
* `Value.read_recognizes` — exactly the texts of values are read, and a row of digits keeps its number
-/

namespace Uno.Value

open Text (EqualUpToCase)

variable {tag : String}

/-! ### Digits one by one -/

/-- One more digit behind a number, unless that leads out of the range of numbers. -/
def appendDigit (rank : Fin 256) (digit : Char) : Option (Fin 256) :=
  if bound : 10 * rank.val + (digit.toNat - 48) < 256 then some ⟨_, bound⟩ else none

/-- More digits make no number smaller. -/
theorem le_ofDigitChars (cs : List Char) (n : Nat) : n ≤ Nat.ofDigitChars 10 cs n := by
  induction cs generalizing n with
  | nil => exact Nat.le_of_eq Nat.ofDigitChars_nil.symm
  | cons c cs ih =>
    rw [Text.ofDigitChars_cons_eq]
    calc
      n ≤ 10 * n + (c.toNat - 48) := by omega
      _ ≤ Nat.ofDigitChars 10 cs (10 * n + (c.toNat - 48)) := ih _

/-- Digits that are read within the range, one by one, lead to the number that they denote if it is in the range,
and to nothing otherwise. -/
theorem foldlM_appendDigit (cs : List Char) (rank : Fin 256) :
    cs.foldlM appendDigit rank =
      if bound : Nat.ofDigitChars 10 cs rank.val < 256 then some ⟨_, bound⟩ else none := by
  induction cs generalizing rank with
  | nil => simp
  | cons c cs ih =>
    simp only [List.foldlM_cons, Text.ofDigitChars_cons_eq]
    by_cases bound : 10 * rank.val + (c.toNat - 48) < 256
    · rw [appendDigit, dif_pos bound]
      exact ih _
    · -- The number has left the range, and what follows does not lead back.
      have larger := le_ofDigitChars cs (10 * rank.val + (c.toNat - 48))
      rw [appendDigit, dif_neg bound, dif_neg (by omega)]
      rfl

/-- Digits are a numeral unless there are several and the first of them is a zero. -/
theorem isNumeral_eq_false_iff_of_digits (nonempty : tag.toList ≠ [])
    (digits : ∀ c ∈ tag.toList, c.isDigit = true) :
    Text.isNumeral tag = false ↔ tag.toList.head? = some '0' ∧ 1 < tag.toList.length := by
  unfold Text.isNumeral
  split
  · contradiction
  · rename_i digit single
    simp [digits digit (by simp [single]), single]
  · rename_i first others several written
    have isFirst : first.isDigit = true := digits first (by simp [written])
    have areOthers : ∀ c ∈ others, c.isDigit = true := fun c member => digits c (by simp [written, member])
    have longer : 0 < others.length := List.length_pos_iff.mpr (several · )
    simp [written, isFirst, List.all_eq_true.mpr areOthers, longer]

/-- What comes of a row of digits: it is refused when there is a zero in front of others, and read within the range of
numbers otherwise. -/
theorem read_of_digits (nonempty : tag.toList ≠ []) (digits : ∀ c ∈ tag.toList, c.isDigit = true) :
    read tag =
      if tag.toList.head? = some '0' ∧ 1 < tag.toList.length then .error (.unknownValue tag)
      else match tag.toList.foldlM appendDigit 0 with
        | some rank => .ok (.number rank)
        | none => .error (.unknownValue tag) := by
  have numeral := isNumeral_eq_false_iff_of_digits nonempty digits
  by_cases zeroInFront : tag.toList.head? = some '0' ∧ 1 < tag.toList.length
  · have noNumber : Text.numeral? tag = none := by
      rw [Text.numeral?, numeral.mpr zeroInFront]
      rfl
    rw [if_pos zeroInFront, read, ofTag?, noNumber, Action.ofTag?_of_digits digits]
    rfl
  · have isNumber : Text.numeral? tag = some (Nat.ofDigitChars 10 tag.toList 0) :=
      if_pos (eq_true_of_ne_false (mt numeral.mp zeroInFront))
    rw [if_neg zeroInFront, foldlM_appendDigit, read, ofTag?, isNumber]
    by_cases bound : Nat.ofDigitChars 10 tag.toList 0 < 256
    · simp [bound]
    · simp [bound]

/-- A row of digits that is read keeps its number. -/
theorem ofDigitChars_of_read (digits : ∀ c ∈ tag.toList, c.isDigit = true) {value : Value}
    (isValue : read tag = .ok value) : ∃ rank : Fin 256, value = .number rank ∧
      Nat.ofDigitChars 10 tag.toList 0 = rank.val := by
  have nonempty : tag.toList ≠ [] := (isWord_of_read isValue).nonempty
  rw [read_of_digits nonempty digits, foldlM_appendDigit] at isValue
  split at isValue
  · contradiction
  · by_cases bound : Nat.ofDigitChars 10 tag.toList 0 < 256
    · simp only [Fin.val_zero, dif_pos bound, Except.ok.injEq] at isValue
      exact ⟨_, isValue.symm, rfl⟩
    · simp [bound] at isValue

/-! ### Texts that resemble values -/

/-- Texts that resemble values and are none. -/
inductive Malformed : String → Prop
  /-- There is no character. -/
  | empty : Malformed ""
  /-- A row of digits with a zero in front of others. -/
  | leadingZero {tag : String} (digits : ∀ c ∈ tag.toList, c.isDigit = true) (zero : tag.toList.head? = some '0')
    (several : 1 < tag.toList.length) : Malformed tag
  /-- A row of digits, of any length, that denotes a number above 255. -/
  | tooLarge {tag : String} (digits : ∀ c ∈ tag.toList, c.isDigit = true)
    (large : 255 < Nat.ofDigitChars 10 tag.toList 0) : Malformed tag
  /-- A row of digits with a sign in front, except for the spelling `+2` of an action. -/
  | signed {tag : String} {sign : Char} {digits : List Char} (written : tag.toList = sign :: digits)
    (isSign : sign = '+' ∨ sign = '-') (areDigits : ∀ c ∈ digits, c.isDigit = true) (notAction : tag ≠ "+2") :
    Malformed tag
  /-- There is a blank in it, at an end or elsewhere. -/
  | blank {tag : String} {c : Char} (member : c ∈ tag.toList) (isBlank : Text.isBlank c = true) : Malformed tag
  /-- There is a character in it that lies outside ASCII, whether it looks like a digit or a letter or not. -/
  | notAscii {tag : String} {c : Char} (member : c ∈ tag.toList) (outside : 127 < c.toNat) : Malformed tag

/-- All characters of a value tag lie in ASCII. -/
theorem ascii_of_read {value : Value} (isValue : read tag = .ok value) : ∀ c ∈ tag.toList, c.toNat ≤ 127 :=
  fun c member => Nat.le_succ_of_le ((tagShaped_of_read isValue).visible c member).2

/-- A sign in front of digits is read only as the spelling `+2` of an action. -/
theorem eq_of_read_signed {sign : Char} {digits : List Char} (written : tag.toList = sign :: digits)
    (isSign : sign = '+' ∨ sign = '-') (areDigits : ∀ c ∈ digits, c.isDigit = true) {value : Value}
    (isValue : read tag = .ok value) : tag = "+2" := by
  cases value with
  | number rank =>
    -- A number is written without a sign.
    have digit : sign.isDigit = true := by
      apply Text.isDigit_of_mem_toString (n := rank.val)
      rw [← eq_toString_of_read isValue, written]
      exact List.mem_cons_self
    rcases isSign with rfl | rfl
    · contradiction
    · contradiction
  | action act =>
    -- Neither a sign nor a digit has two cases, so the tag is in the table as it stands.
    have inFront : ∀ c ∈ tag.toList, c.toNat < 65 := by
      rw [written, List.forall_mem_cons]
      constructor
      · rcases isSign with rfl | rfl
        · decide
        · decide
      · intro c member
        have bounds := Char.isDigit_iff_toNat.mp (areDigits c member)
        exact Nat.lt_of_le_of_lt bounds.2 (by decide)
    obtain ⟨s, spells, same⟩ := exists_spelling_of_read isValue
    obtain rfl : s = tag := same.symm.eq_of_toNat_lt inFront
    have signedSpellings : ∀ act ∈ Action.all, ∀ s ∈ act.spellings,
        s.toList.head? = some '+' ∨ s.toList.head? = some '-' → s = "+2" := by decide
    apply signedSpellings act (Action.mem_all act) s spells
    rw [written, List.head?_cons, Option.some.injEq, Option.some.injEq]
    exact isSign

/-- Texts that resemble values are refused as they are. -/
theorem Malformed.read_eq (malformed : Malformed tag) : read tag = .error (.unknownValue tag) := by
  rcases read_eq_ok_or tag with ⟨value, isValue⟩ | refused
  · exfalso
    have isWord := isWord_of_read isValue
    cases malformed with
    | empty => exact isWord.nonempty rfl
    | leadingZero digits zero several =>
      rw [read_of_digits isWord.nonempty digits, if_pos ⟨zero, several⟩] at isValue
      contradiction
    | tooLarge digits large =>
      obtain ⟨rank, -, sameNumber⟩ := ofDigitChars_of_read digits isValue
      omega
    | signed written isSign areDigits notAction =>
      exact notAction (eq_of_read_signed written isSign areDigits isValue)
    | blank member isBlank =>
      rw [isWord.noBlank _ member] at isBlank
      contradiction
    | notAscii member outside =>
      have ascii := ascii_of_read isValue _ member
      omega
  · exact refused

/-! ### Exactly the texts of values -/

/-- **Exactly the texts of values are read, whatever the length of a tag.** A number is read from the text in which it
is written and from no other, and an action from its spellings in any letter case. A tag is refused when it is none of
these, and it is refused as it stands; among such tags are those that resemble values. A row of digits is read within
the range of numbers digit by digit, unless there is a zero in front of others, and the number that is read is the one
that the digits denote: none comes from digits that denote a number out of the range. -/
theorem read_recognizes (tag : String) :
    (∀ rank : Fin 256, read tag = .ok (.number rank) ↔ tag = (number rank).text) ∧
    (read tag = .ok (.action .skip) ↔ EqualUpToCase tag "SKIP") ∧
    (read tag = .ok (.action .reverse) ↔ EqualUpToCase tag "REVERSE") ∧
    (read tag = .ok (.action .drawTwo) ↔
      EqualUpToCase tag "DRAW_TWO" ∨ EqualUpToCase tag "DRAW2" ∨ EqualUpToCase tag "+2") ∧
    (∀ fault, read tag = .error fault ↔
      fault = .unknownValue tag ∧ (∀ rank, tag ≠ (number rank).text) ∧ ¬ EqualUpToCase tag "SKIP" ∧
        ¬ EqualUpToCase tag "REVERSE" ∧
        ¬ (EqualUpToCase tag "DRAW_TWO" ∨ EqualUpToCase tag "DRAW2" ∨ EqualUpToCase tag "+2")) ∧
    (Malformed tag → read tag = .error (.unknownValue tag)) ∧
    ((∀ c ∈ tag.toList, c.isDigit = true) → tag ≠ "" →
      read tag =
        if tag.toList.head? = some '0' ∧ 1 < tag.toList.length then .error (.unknownValue tag)
        else match tag.toList.foldlM appendDigit 0 with
          | some rank => .ok (.number rank)
          | none => .error (.unknownValue tag)) ∧
    ((∀ c ∈ tag.toList, c.isDigit = true) → ∀ value, read tag = .ok value →
      ∃ rank : Fin 256, value = .number rank ∧ Nat.ofDigitChars 10 tag.toList 0 = rank.val) := by
  refine ⟨fun rank => read_eq_ok_iff_spelledBy, read_eq_ok_iff_spelledBy, read_eq_ok_iff_spelledBy,
    read_eq_ok_iff_spelledBy, ?_, Malformed.read_eq, ?_, fun digits value => ofDigitChars_of_read digits⟩
  · intro fault
    have noValue : read tag = .error (.unknownValue tag) ↔ _ := read_eq_error_iff
    constructor
    · intro refused
      rcases read_eq_ok_or tag with ⟨value, isValue⟩ | unknown
      · rw [isValue] at refused
        contradiction
      · rw [unknown] at refused
        have spelledByNone := noValue.mp unknown
        exact ⟨(Except.error.inj refused).symm, fun rank => spelledByNone (.number rank),
          spelledByNone (.action .skip), spelledByNone (.action .reverse), spelledByNone (.action .drawTwo)⟩
    · rintro ⟨rfl, noNumber, noSkip, noReverse, noDrawTwo⟩
      apply noValue.mpr
      intro value
      rcases value with rank | act
      · exact noNumber rank
      · cases act with
        | skip => exact noSkip
        | reverse => exact noReverse
        | drawTwo => exact noDrawTwo
  · intro digits nonempty
    exact read_of_digits (mt String.toList_eq_nil_iff.mp nonempty) digits

end Uno.Value
