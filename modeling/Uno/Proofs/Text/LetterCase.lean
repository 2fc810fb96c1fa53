import Mathlib.Data.List.Forall2
import Uno.Proofs.Text.Words
import Uno.Text.LetterCase

/-!
# Texts that differ in letter case only

Comparing texts by their capitals is a way to compute a relation that can be stated without it: the texts are
of one length, and at every place they have the same character, or the two cases of one of the letters `A` to
`Z`. The small letter lies 32 code points behind its capital.

## Main definitions

* `Text.SameLetter` — two characters that differ in case at most
* `Text.EqualUpToCase` — two texts that differ in case at most
* `Text.InCapitals` — a text without small letters

## Main results

* `Text.sameLetters_iff_equalUpToCase` — the comparison decides the relation
* `Text.EqualUpToCase.eq_of_inCapitals` — texts in capitals that differ in case only do not differ
* `Text.EqualUpToCase.isWord` — case has no influence on whether a text is a word
* `Text.EqualUpToCase.words` — case has no influence on where the words of a text are
-/

namespace Uno.Text

/-- Two characters that differ in case at most: they are one character, or one of them is a letter `A` to `Z`
and the other its small letter. -/
def SameLetter (c d : Char) : Prop :=
  c = d ∨ (c.isUpper = true ∧ d.toNat = c.toNat + 32) ∨ (d.isUpper = true ∧ c.toNat = d.toNat + 32)

/-- Two texts that differ in letter case at most. -/
def EqualUpToCase (left right : String) : Prop :=
  List.Forall₂ SameLetter left.toList right.toList

theorem isUpper_iff_toNat {c : Char} : c.isUpper = true ↔ 65 ≤ c.toNat ∧ c.toNat ≤ 90 := by
  change decide ('A'.val ≤ c.val ∧ c.val ≤ 'Z'.val) = true ↔ _
  rw [decide_eq_true_iff, UInt32.le_iff_toNat_le, UInt32.le_iff_toNat_le]
  exact Iff.rfl

/-- The capital of a small letter lies 32 code points in front of it. -/
theorem toNat_toUpper (c : Char) :
    c.toUpper.toNat = if 97 ≤ c.toNat ∧ c.toNat ≤ 122 then c.toNat - 32 else c.toNat := by
  by_cases small : 97 ≤ c.toNat ∧ c.toNat ≤ 122
  · rw [if_pos small]
    have inRange : 'a'.val ≤ c.val ∧ c.val ≤ 'z'.val := by
      simpa [UInt32.le_iff_toNat_le] using small
    unfold Char.toUpper
    rw [dif_pos inRange]
    -- The distance from `a` to `A` is added in 32 bits. It is negative, so the sum wraps around.
    change (c.val + ('A'.val - 'a'.val)).toNat = c.val.toNat - 32
    have bounds : 97 ≤ c.val.toNat ∧ c.val.toNat ≤ 122 := small
    have distance : ('A'.val - 'a'.val).toNat = 2 ^ 32 - 32 := rfl
    rw [UInt32.toNat_add, distance]
    omega
  · rw [if_neg small]
    have outOfRange : ¬('a'.val ≤ c.val ∧ c.val ≤ 'z'.val) := by
      simpa [UInt32.le_iff_toNat_le] using small
    unfold Char.toUpper
    rw [dif_neg outOfRange]

/-- Two characters have one capital when they differ in case at most. -/
theorem toUpper_eq_toUpper_iff {c d : Char} : c.toUpper = d.toUpper ↔ SameLetter c d := by
  rw [SameLetter, ← Char.toNat_inj, ← Char.toNat_inj, toNat_toUpper, toNat_toUpper, isUpper_iff_toNat,
    isUpper_iff_toNat]
  -- Either character may be a small letter or not. What remains is about code points.
  split <;> split <;> omega

/-- The comparison of capitals decides whether two texts differ in case at most. -/
theorem sameLetters_iff_equalUpToCase {left right : String} :
    sameLetters left right = true ↔ EqualUpToCase left right := by
  rw [sameLetters_iff, capitals, capitals, ← List.forall₂_eq_eq_eq, List.forall₂_map_left_iff,
    List.forall₂_map_right_iff, EqualUpToCase]
  constructor
  · intro same
    exact same.imp fun _ _ => toUpper_eq_toUpper_iff.mp
  · intro same
    exact same.imp fun _ _ => toUpper_eq_toUpper_iff.mpr

theorem equalUpToCase_iff {left right : String} :
    EqualUpToCase left right ↔ capitals left = capitals right :=
  sameLetters_iff_equalUpToCase.symm.trans sameLetters_iff

theorem EqualUpToCase.symm {left right : String} (same : EqualUpToCase left right) :
    EqualUpToCase right left :=
  equalUpToCase_iff.mpr (equalUpToCase_iff.mp same).symm

theorem SameLetter.symm {c d : Char} (same : SameLetter c d) : SameLetter d c :=
  toUpper_eq_toUpper_iff.mp (toUpper_eq_toUpper_iff.mpr same).symm

/-- A character in front of the letters has no second case. -/
theorem SameLetter.eq_of_toNat_lt {c d : Char} (same : SameLetter c d) (inFront : d.toNat < 65) : c = d := by
  rcases same with rfl | ⟨upper, lower⟩ | ⟨upper, lower⟩
  · rfl
  · rw [isUpper_iff_toNat] at upper
    omega
  · rw [isUpper_iff_toNat] at upper
    omega

/-- Texts that differ in case only begin with the same character if that is in front of the letters. -/
theorem EqualUpToCase.head?_eq {left right : String} {c : Char} (same : EqualUpToCase left right)
    (begins : right.toList.head? = some c) (inFront : c.toNat < 65) : left.toList.head? = some c := by
  rw [EqualUpToCase] at same
  generalize left.toList = cs, right.toList = ds at same begins ⊢
  cases same with
  | nil => contradiction
  | cons first later =>
    rw [List.head?_cons, Option.some.injEq] at begins ⊢
    rw [← begins] at inFront
    exact (first.eq_of_toNat_lt inFront).trans begins

/-- A text that differs in case only from characters in front of the letters does not differ from them. -/
theorem EqualUpToCase.eq_of_toNat_lt {left right : String} (same : EqualUpToCase left right)
    (inFront : ∀ c ∈ right.toList, c.toNat < 65) : left = right := by
  rw [← String.toList_inj, ← List.forall₂_eq_eq_eq]
  rw [EqualUpToCase, List.forall₂_iff_zip] at same
  rw [List.forall₂_iff_zip]
  exact ⟨same.1, fun member => (same.2 member).eq_of_toNat_lt (inFront _ (List.of_mem_zip member).2)⟩

/-- A text that differs from a sequence of digits in case only does not differ from it. -/
theorem EqualUpToCase.eq_of_digits {left right : String} (same : EqualUpToCase left right)
    (digits : ∀ c ∈ right.toList, c.isDigit = true) : left = right := by
  apply same.eq_of_toNat_lt
  intro c member
  have bounds := Char.isDigit_iff_toNat.mp (digits c member)
  exact Nat.lt_of_le_of_lt bounds.2 (by decide)

/-- Letters are visible in either case. -/
theorem SameLetter.visible {c d : Char} (same : SameLetter c d) (visible : 33 ≤ d.toNat ∧ d.toNat ≤ 126) :
    33 ≤ c.toNat ∧ c.toNat ≤ 126 := by
  rcases same with rfl | ⟨upper, -⟩ | ⟨upper, lower⟩
  · exact visible
  · rw [isUpper_iff_toNat] at upper
    omega
  · rw [isUpper_iff_toNat] at upper
    omega

/-! ### Texts in capitals -/

/-- A text without small letters. -/
def InCapitals (text : String) : Prop :=
  ∀ c ∈ text.toList, c.isLower = false

instance : DecidablePred InCapitals := fun text =>
  decidable_of_iff (text.toList.all (!·.isLower) = true)
    (by simp only [List.all_eq_true, Bool.not_eq_true', InCapitals])

theorem isLower_iff_toNat {c : Char} : c.isLower = true ↔ 97 ≤ c.toNat ∧ c.toNat ≤ 122 := by
  change (decide ('a'.val ≤ c.val) && decide (c.val ≤ 'z'.val)) = true ↔ _
  rw [Bool.and_eq_true, decide_eq_true_iff, decide_eq_true_iff, UInt32.le_iff_toNat_le, UInt32.le_iff_toNat_le]
  exact Iff.rfl

/-- A character that is no small letter is its own capital. -/
theorem toUpper_eq_self {c : Char} (notSmall : c.isLower = false) : c.toUpper = c := by
  rw [← Char.toNat_inj, toNat_toUpper, if_neg (by rw [← isLower_iff_toNat, notSmall]; decide)]

theorem inCapitals_append_iff {left right : String} :
    InCapitals (left ++ right) ↔ InCapitals left ∧ InCapitals right := by
  simp only [InCapitals, String.toList_append, List.forall_mem_append]

/-- A text in capitals is left alone when it is put into capitals. -/
theorem InCapitals.capitals_eq {text : String} (inCapitals : InCapitals text) :
    capitals text = text.toList := by
  rw [capitals, List.map_congr_left fun c member => toUpper_eq_self (inCapitals c member), List.map_id']

/-- Texts in capitals that differ in case only do not differ. -/
theorem EqualUpToCase.eq_of_inCapitals {left right : String} (same : EqualUpToCase left right)
    (inCapitals : InCapitals left) (inCapitals' : InCapitals right) : left = right := by
  rw [equalUpToCase_iff, inCapitals.capitals_eq, inCapitals'.capitals_eq] at same
  exact String.toList_inj.mp same

/-! ### Words in either case -/

/-- No letter is blank, so the case of a character has no influence on whether it is. -/
theorem SameLetter.isBlank_eq {c d : Char} (same : SameLetter c d) : isBlank c = isBlank d := by
  rcases same with rfl | ⟨upper, lower⟩ | ⟨upper, lower⟩
  · rfl
  -- In the other two cases both characters are letters, and letters are visible.
  · rw [isUpper_iff_toNat] at upper
    rw [isBlank_of_visible (by omega), isBlank_of_visible (by omega)]
  · rw [isUpper_iff_toNat] at upper
    rw [isBlank_of_visible (by omega), isBlank_of_visible (by omega)]

/-- What the case of a character does not matter to, and what is true of all characters of a text, is true of all
characters of a text that differs in case only. -/
theorem EqualUpToCase.forall_mem {p : Char → Prop} (anyCase : ∀ {c d : Char}, SameLetter c d → p d → p c)
    {left right : String} (same : EqualUpToCase left right) (holds : ∀ c ∈ right.toList, p c) :
    ∀ c ∈ left.toList, p c := by
  rw [EqualUpToCase] at same
  generalize left.toList = cs, right.toList = ds at same holds ⊢
  induction same with
  | nil => exact holds
  | cons sameFirst _ ih =>
    rw [List.forall_mem_cons] at holds ⊢
    exact ⟨anyCase sameFirst holds.1, ih holds.2⟩

/-- A text that differs from a word in case only is a word. -/
theorem EqualUpToCase.isWord {left right : String} (same : EqualUpToCase left right)
    (isWord : IsWord right) : IsWord left := by
  refine ⟨?_, same.forall_mem (fun sameChar noBlank => sameChar.isBlank_eq.trans noBlank) isWord.noBlank⟩
  intro empty
  rw [EqualUpToCase, empty, List.forall₂_nil_left_iff] at same
  exact isWord.nonempty same

/-! ### Words of texts that differ in case -/

theorem forall₂_splitOnP_isBlank {left right : List Char} (same : List.Forall₂ SameLetter left right) :
    List.Forall₂ (List.Forall₂ SameLetter) (left.splitOnP isBlank) (right.splitOnP isBlank) := by
  induction same with
  | nil => exact .cons .nil .nil
  | @cons c d cs ds sameFirst _ ih =>
    rw [List.splitOnP_cons_eq_if_modifyHead, List.splitOnP_cons_eq_if_modifyHead, sameFirst.isBlank_eq]
    generalize cs.splitOnP isBlank = pieces, ds.splitOnP isBlank = pieces' at ih ⊢
    split
    · exact .cons .nil ih
    · -- The character is put in front of the first piece.
      cases ih with
      | nil => exact .nil
      | cons samePiece later => exact .cons (.cons sameFirst samePiece) later

/-- Texts that differ in case only have as many words, and the words differ in case only. -/
theorem EqualUpToCase.words {left right : String} (same : EqualUpToCase left right) :
    List.Forall₂ EqualUpToCase (words left) (words right) := by
  have sameEmpty : ∀ {cs ds : List Char}, List.Forall₂ SameLetter cs ds →
      ((!cs.isEmpty) = true ↔ (!ds.isEmpty) = true) := by
    intro cs ds same
    cases same <;> simp
  have pieces : List.Forall₂ (List.Forall₂ SameLetter) (wordChars left.toList) (wordChars right.toList) :=
    List.rel_filter (fun _ _ same => sameEmpty same) (forall₂_splitOnP_isBlank same)
  rw [Text.words, Text.words, List.forall₂_map_left_iff, List.forall₂_map_right_iff]
  apply pieces.imp
  intro cs ds same
  rw [EqualUpToCase, String.toList_ofList, String.toList_ofList]
  exact same

end Uno.Text
