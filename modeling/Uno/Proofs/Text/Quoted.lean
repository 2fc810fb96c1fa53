import Mathlib.Logic.Function.Basic
import Uno.Text.Quoted

/-!
# Quoted text can be taken apart again

A character inside double quotes is written in one of three forms. Most characters stand for themselves. Six have a
letter or sign of their own behind a backslash, and the other controls, and whatever the repertoire does not show, are
written by their code in hexadecimal, in braces behind a backslash and a `u`. No form is the beginning of another one,
so a reader who goes from left to right knows after each form where the next one begins, and since no form begins with
a double quote, he knows where the quotes end. Whatever follows, the text between the quotes can be told. This
property of a way of writing is what is stated here, since it carries over from characters to texts, and from texts to
lists of texts.

## Main definitions

* `Text.SelfDelimiting` — what is written shows where it ends
* `Text.IsControl`, `Text.ControlFree` — the ASCII controls, and texts without them
* `Text.Escaped` — the three forms of a character inside quotes

## Main results

* `Text.toDigits_inj` — numbers with one numeral are one number, in any base up to 16
* `Text.append_stop_inj` — what stands in front of a character can be told from what stands behind it
* `Text.SelfDelimiting.flatMap_inj` — items that show their end, up to a character that begins none
* `Text.SelfDelimiting.flatMap_injective` — items that show their end, and nothing behind them
* `Text.selfDelimiting_escape`, `Text.selfDelimiting_quoted` — escapes and quoted texts show where they end
* `Text.controlFree_quoted` — no control is left in a quoted text
-/

namespace Uno.Text

/-! ### Numerals -/

section Numerals

variable {b n m : Nat}

/-- The characters of a numeral are digits of its base. -/
theorem exists_digitChar_of_mem_toDigits (base : 1 < b) {c : Char} (member : c ∈ Nat.toDigits b n) :
    ∃ digit < b, c = Nat.digitChar digit := by
  induction n using Nat.strongRecOn with
  | ind n ih =>
    rw [Nat.toDigits_eq_if base] at member
    split at member
    · exact ⟨n, ‹n < b›, List.mem_singleton.mp member⟩
    · rcases List.mem_append.mp member with earlier | last
      · exact ih (n / b) (Nat.div_lt_self (by omega) base) earlier
      · exact ⟨n % b, Nat.mod_lt n (by omega), List.mem_singleton.mp last⟩

/-- The sixteen digits are different. -/
theorem digitChar_inj {digit digit' : Nat} (small : digit < 16) (small' : digit' < 16)
    (same : Nat.digitChar digit = Nat.digitChar digit') : digit = digit' := by
  have apart : ∀ i < 16, ∀ j < 16, Nat.digitChar i = Nat.digitChar j → i = j := by decide
  exact apart digit small digit' small' same

/-- Numbers with one numeral are one number. -/
theorem toDigits_inj (base : 1 < b) (bound : b ≤ 16) (same : Nat.toDigits b n = Nat.toDigits b m) : n = m := by
  induction n using Nat.strongRecOn generalizing m with
  | ind n ih =>
    rw [Nat.toDigits_eq_if base, Nat.toDigits_eq_if base (n := m)] at same
    split at same <;> split at same
    · exact digitChar_inj (by omega) (by omega) (List.singleton_inj.mp same)
    -- A numeral of one digit is not one of several.
    · have several := Nat.length_toDigits_pos (b := b) (n := m / b)
      have lengths := congrArg List.length same
      simp only [List.length_append, List.length_singleton] at lengths
      omega
    · have several := Nat.length_toDigits_pos (b := b) (n := n / b)
      have lengths := congrArg List.length same
      simp only [List.length_append, List.length_singleton] at lengths
      omega
    · obtain ⟨earlier, last⟩ := List.append_inj' same rfl
      have sameQuotient := ih (n / b) (Nat.div_lt_self (by omega) base) earlier
      have remainder : n % b < b := Nat.mod_lt n (by omega)
      have remainder' : m % b < b := Nat.mod_lt m (by omega)
      have sameRemainder : n % b = m % b :=
        digitChar_inj (by omega) (by omega) (List.singleton_inj.mp last)
      rw [← Nat.div_add_mod n b, ← Nat.div_add_mod m b, sameQuotient, sameRemainder]

end Numerals

/-! ### Texts up to a stop -/

/-- What stands in front of the first occurrence of a character can be told from what stands behind it. -/
theorem append_stop_inj {stop : Char} {front front' rest rest' : List Char} (free : stop ∉ front)
    (free' : stop ∉ front') (same : front ++ stop :: rest = front' ++ stop :: rest') :
    front = front' ∧ rest = rest' := by
  induction front generalizing front' with
  | nil =>
    cases front' with
    | nil => exact ⟨rfl, (List.cons.inj same).2⟩
    | cons c others' => exact absurd ((List.cons.inj same).1 ▸ List.mem_cons_self) free'
  | cons c others ih =>
    cases front' with
    | nil => exact absurd ((List.cons.inj same).1 ▸ List.mem_cons_self) free
    | cons c' others' =>
      obtain ⟨rfl, sameBehind⟩ := List.cons.inj same
      obtain ⟨rfl, sameRest⟩ := ih (mt (List.mem_cons_of_mem c) free) (mt (List.mem_cons_of_mem c) free') sameBehind
      exact ⟨rfl, sameRest⟩

/-- Digits up to a closing brace can be told from what follows. -/
theorem toDigits_append_inj {n m : Nat} {rest rest' : List Char}
    (same : Nat.toDigits 16 n ++ '\x7d' :: rest = Nat.toDigits 16 m ++ '\x7d' :: rest') :
    n = m ∧ rest = rest' := by
  have noBrace : ∀ k, '\x7d' ∉ Nat.toDigits 16 k := by
    intro k member
    obtain ⟨digit, small, isBrace⟩ := exists_digitChar_of_mem_toDigits (by decide) member
    have apart : ∀ digit < 16, '\x7d' ≠ Nat.digitChar digit := by decide
    exact apart digit small isBrace
  obtain ⟨sameDigits, sameRest⟩ := append_stop_inj (noBrace n) (noBrace m) same
  exact ⟨toDigits_inj (by decide) (by decide) sameDigits, sameRest⟩

/-! ### Writing that shows where it ends -/

/-- A way of writing that shows where it ends: whatever follows, it can be told what has been written and what
follows. -/
def SelfDelimiting {α : Type} (write : α → List Char) : Prop :=
  ∀ ⦃a b : α⦄ ⦃rest rest' : List Char⦄, write a ++ rest = write b ++ rest' → a = b ∧ rest = rest'

section SelfDelimiting

variable {α : Type} {write : α → List Char}

theorem SelfDelimiting.injective (self : SelfDelimiting write) : Function.Injective write := by
  intro a b same
  exact (self (congrArg (· ++ []) same)).1

/-- With something constant in front, it still shows where it ends. -/
theorem SelfDelimiting.append_left (self : SelfDelimiting write) (front : List Char) :
    SelfDelimiting fun a => front ++ write a := by
  intro a b rest rest' same
  rw [List.append_assoc, List.append_assoc, List.append_cancel_left_eq] at same
  exact self same

/-- Items that show where they end, up to a character that begins no item: the items can be told, and what follows. -/
theorem SelfDelimiting.flatMap_inj (self : SelfDelimiting write) {closing : Char}
    (begins : ∀ a, ∃ c cs, write a = c :: cs ∧ c ≠ closing) {items items' : List α} {rest rest' : List Char}
    (same : items.flatMap write ++ closing :: rest = items'.flatMap write ++ closing :: rest') :
    items = items' ∧ rest = rest' := by
  induction items generalizing items' with
  | nil =>
    cases items' with
    | nil => exact ⟨rfl, (List.cons.inj same).2⟩
    | cons b others' =>
      obtain ⟨c, cs, first, other⟩ := begins b
      rw [List.flatMap_cons, first] at same
      exact absurd (List.cons.inj same).1.symm other
  | cons a others ih =>
    cases items' with
    | nil =>
      obtain ⟨c, cs, first, other⟩ := begins a
      rw [List.flatMap_cons, first] at same
      exact absurd (List.cons.inj same).1 other
    | cons b others' =>
      rw [List.flatMap_cons, List.flatMap_cons, List.append_assoc, List.append_assoc] at same
      obtain ⟨rfl, sameBehind⟩ := self same
      obtain ⟨rfl, sameRest⟩ := ih sameBehind
      exact ⟨rfl, sameRest⟩

/-- Items that show where they end can be told when nothing follows them, if none of them is empty. -/
theorem SelfDelimiting.flatMap_injective (self : SelfDelimiting write) (nonempty : ∀ a, write a ≠ []) :
    Function.Injective (List.flatMap write) := by
  intro items items' same
  induction items generalizing items' with
  | nil =>
    cases items' with
    | nil => rfl
    | cons b others' => exact absurd (List.append_eq_nil_iff.mp same.symm).1 (nonempty b)
  | cons a others ih =>
    cases items' with
    | nil => exact absurd (List.append_eq_nil_iff.mp same).1 (nonempty a)
    | cons b others' =>
      obtain ⟨rfl, sameBehind⟩ := self same
      rw [ih sameBehind]

end SelfDelimiting

/-! ### Controls -/

/-- An ASCII control: a character in front of the space, or the delete character. -/
def IsControl (c : Char) : Prop :=
  c.toNat < 32 ∨ c.toNat = 127

instance : DecidablePred IsControl := fun c => inferInstanceAs (Decidable (c.toNat < 32 ∨ c.toNat = 127))

/-- A text without ASCII controls. -/
def ControlFree (text : String) : Prop :=
  ∀ c ∈ text.toList, ¬ IsControl c

/-- Characters that are written out are looked at one by one. -/
theorem notControl_of_all {cs : List Char} (checked : cs.all (fun c => ¬ IsControl c) = true) :
    ∀ c ∈ cs, ¬ IsControl c :=
  fun c member => of_decide_eq_true (List.all_eq_true.mp checked c member)

/-- A text that is given by its characters. Texts that are written out are of this kind. -/
theorem controlFree_ofList {cs : List Char} (checked : cs.all (fun c => ¬ IsControl c) = true) :
    ControlFree (String.ofList cs) := by
  intro c member
  rw [String.toList_ofList] at member
  exact notControl_of_all checked c member

theorem controlFree_append_iff {left right : String} :
    ControlFree (left ++ right) ↔ ControlFree left ∧ ControlFree right := by
  simp only [ControlFree, String.toList_append, List.forall_mem_append]

/-! ### The three forms -/

/-- The characters that have a letter or sign of their own behind a backslash. -/
def letters : List (Char × Char) :=
  [('"', '"'), ('\\', '\\'), ('\n', 'n'), ('\r', 'r'), ('\t', 't'), ('\x00', '0')]

/-- The three forms of a character inside quotes. -/
inductive Escaped : Char → List Char → Prop
  /-- A character stands for itself. -/
  | plain {c : Char} (notQuote : c ≠ '"') (notBackslash : c ≠ '\\') (notControl : ¬ IsControl c) : Escaped c [c]
  /-- A backslash and a letter or sign. -/
  | letter {c sign : Char} (listed : (c, sign) ∈ letters) : Escaped c ['\\', sign]
  /-- A code in hexadecimal. -/
  | code (c : Char) : Escaped c ('\\' :: 'u' :: '\x7b' :: (Nat.toDigits 16 c.toNat ++ ['\x7d']))

variable [Repertoire]

/-- Each character is written in one of the three forms. -/
theorem escaped_escape (c : Char) : Escaped c (escape c) := by
  unfold escape
  split
  case h_7 notQuote notBackslash _ _ _ _ =>
    split
    · exact .code c
    · rename_i shown
      have notControl : ¬ IsControl c := by
        intro control
        simp only [Bool.or_eq_true, decide_eq_true_iff, beq_iff_eq] at shown
        exact shown (Or.inl control)
      exact .plain notQuote notBackslash notControl
  all_goals exact .letter (by decide)

/-- An escape shows where it ends. -/
theorem selfDelimiting_escape : SelfDelimiting escape := by
  have signs : ∀ entry ∈ letters, ∀ entry' ∈ letters, entry.2 = entry'.2 → entry.1 = entry'.1 := by decide
  have noU : ∀ entry ∈ letters, entry.2 ≠ 'u' := by decide
  intro c d rest rest' same
  have form := escaped_escape c
  have form' := escaped_escape d
  generalize escape c = written, escape d = written' at form form' same
  -- Forms of two kinds differ in their first or second character.
  cases form with
  | plain notQuote notBackslash notControl =>
    cases form' with
    | plain => exact List.cons.inj same
    | letter listed => exact absurd (List.cons.inj same).1 notBackslash
    | code => exact absurd (List.cons.inj same).1 notBackslash
  | letter listed =>
    cases form' with
    | plain notQuote notBackslash notControl => exact absurd (List.cons.inj same).1.symm notBackslash
    | letter listed' =>
      obtain ⟨sameSign, sameRest⟩ := List.cons.inj (List.cons.inj same).2
      exact ⟨signs _ listed _ listed' sameSign, sameRest⟩
    | code => exact absurd (List.cons.inj (List.cons.inj same).2).1 (noU _ listed)
  | code =>
    cases form' with
    | plain notQuote notBackslash notControl => exact absurd (List.cons.inj same).1.symm notBackslash
    | letter listed => exact absurd (List.cons.inj (List.cons.inj same).2).1.symm (noU _ listed)
    | code =>
      simp only [List.cons_append, List.append_assoc, List.cons.injEq, true_and] at same
      obtain ⟨sameCode, sameRest⟩ := toDigits_append_inj same
      exact ⟨Char.toNat_inj.mp sameCode, sameRest⟩

/-- No escape begins with a double quote. -/
theorem exists_head_escape (c : Char) : ∃ d ds, escape c = d :: ds ∧ d ≠ '"' := by
  have form := escaped_escape c
  generalize escape c = written at form ⊢
  cases form with
  | plain notQuote => exact ⟨_, _, rfl, notQuote⟩
  | letter => exact ⟨_, _, rfl, by decide⟩
  | code => exact ⟨_, _, rfl, by decide⟩

/-- A quoted text shows where it ends. -/
theorem selfDelimiting_quoted : SelfDelimiting fun text => (quoted text).toList := by
  intro left right rest rest' same
  simp only [toList_quoted, List.cons_append, List.append_assoc, List.cons.injEq, true_and] at same
  obtain ⟨sameChars, sameRest⟩ := selfDelimiting_escape.flatMap_inj exists_head_escape same
  exact ⟨String.toList_inj.mp sameChars, sameRest⟩

theorem quoted_injective : Function.Injective quoted := by
  intro left right same
  exact selfDelimiting_quoted.injective (congrArg String.toList same)

/-! ### No controls in quotes -/

/-- An escape has no control in it. -/
theorem notControl_of_mem_escape {c d : Char} (member : d ∈ escape c) : ¬ IsControl d := by
  have form := escaped_escape c
  generalize escape c = written at form member
  cases form with
  | plain notQuote notBackslash notControl =>
    rw [List.mem_singleton.mp member]
    exact notControl
  | letter listed =>
    have signs : ∀ entry ∈ letters, ¬ IsControl entry.2 := by decide
    simp only [List.mem_cons, List.not_mem_nil, or_false] at member
    rcases member with rfl | rfl
    · decide
    · exact signs _ listed
  | code =>
    have around : ∀ d ∈ ['\\', 'u', '\x7b', '\x7d'], ¬ IsControl d := notControl_of_all (by decide)
    have digits : ∀ digit < 16, ¬ IsControl (Nat.digitChar digit) := by decide
    simp only [List.mem_cons, List.mem_append, List.not_mem_nil, or_false] at member around
    by_cases inDigits : d ∈ Nat.toDigits 16 c.toNat
    · obtain ⟨digit, small, rfl⟩ := exists_digitChar_of_mem_toDigits (by decide) inDigits
      exact digits digit small
    · exact around d (by simpa only [inDigits, false_or] using member)

/-- No control is left in a quoted text. -/
theorem controlFree_quoted (text : String) : ControlFree (quoted text) := by
  have quote : ¬ IsControl '"' := by decide
  intro c member
  simp only [toList_quoted, List.cons_append, List.mem_cons, List.mem_append, List.mem_flatMap,
    List.not_mem_nil, or_false] at member
  rcases member with rfl | ⟨d, -, escaped⟩ | rfl
  · exact quote
  · exact notControl_of_mem_escape escaped
  · exact quote

end Uno.Text
