import Uno.Proofs.Text.Words
import Uno.Text.Slot

/-!
# What a slot does to a text

Whatever a slot asks for, the text that is set into it stands there in one piece, cut to the precision, with copies of
one filling character around it, as many as are missing to the width. A star is used when the text is to stand in the
middle, and a space otherwise. Spaces are blank, so they are lost on a reader that goes by words, and stars are not.

## Main definitions

* `Slot.filler` — the character that fills a slot
* `Slot.Admits` — a text that is not cut

## Main results

* `Slot.exists_fill_eq` — what fills a slot stands around the text
* `Slot.length_set_of_none`, `Slot.length_set_of_some` — the length of a text in a slot
* `Slot.set_of_width_le`, `Slot.filler_mem_set` — a text without filling, and one with it
* `Slot.words_set` — filling with spaces adds no word
-/

namespace Uno.Text.Slot

/-- The character that fills a slot. -/
def filler (slot : Slot) : Char :=
  if slot.style = .starred then '*' else ' '

/-- A text that is not longer than the precision, so that nothing of it is cut off. -/
def Admits (slot : Slot) (text : String) : Prop :=
  ∀ bound ∈ slot.precision, text.length ≤ bound

variable {slot : Slot} {text : String}

theorem filler_of_ne (spaced : slot.style ≠ .starred) : slot.filler = ' ' :=
  if_neg spaced

/-- What fills a slot stands around the text, as often as characters are missing. -/
theorem exists_fill_eq (slot : Slot) (cs : List Char) :
    ∃ before behind, slot.fill cs = List.replicate before slot.filler ++ cs ++ List.replicate behind slot.filler ∧
      before + behind = slot.width - cs.length := by
  unfold fill filler
  cases slot.style with
  | right => exact ⟨slot.width - cs.length, 0, by simp, by omega⟩
  | starred =>
    refine ⟨(slot.width - cs.length) / 2, slot.width - cs.length - (slot.width - cs.length) / 2, by simp, ?_⟩
    omega
  | plain | left | zeros | signed => exact ⟨0, slot.width - cs.length, by simp, by omega⟩

theorem cut_of_admits (admits : slot.Admits text) : slot.cut text.toList = text.toList := by
  unfold cut
  split
  · rfl
  · rename_i bound limited
    apply List.take_of_length_le
    rw [String.length_toList]
    exact admits bound limited

/-- Without a precision, a text in a slot has the width of the slot, unless it is longer. -/
theorem length_set_of_none (unlimited : slot.precision = none) (text : String) :
    (slot.set text).length = max slot.width text.length := by
  simp only [set, String.length_ofList, length_fill, length_cut, unlimited, String.length_toList]

/-- With a precision, the same is true of what the precision leaves of the text. -/
theorem length_set_of_some {bound : Nat} (limited : slot.precision = some bound) (text : String) :
    (slot.set text).length = max slot.width (min bound text.length) := by
  simp only [set, String.length_ofList, length_fill, length_cut, limited, String.length_toList]

/-- A text that is admitted and reaches the width is set as it is. -/
theorem set_of_width_le (admits : slot.Admits text) (reaches : slot.width ≤ text.length) : slot.set text = text := by
  obtain ⟨before, behind, filled, missing⟩ := slot.exists_fill_eq text.toList
  rw [String.length_toList] at missing
  obtain rfl : before = 0 := by omega
  obtain rfl : behind = 0 := by omega
  rw [set, cut_of_admits admits, filled]
  simp

/-- A text that is admitted and does not reach the width has a filling. -/
theorem filler_mem_set (admits : slot.Admits text) (short : text.length < slot.width) :
    slot.filler ∈ (slot.set text).toList := by
  obtain ⟨before, behind, filled, missing⟩ := slot.exists_fill_eq text.toList
  rw [String.length_toList] at missing
  rw [set, cut_of_admits admits, filled, String.toList_ofList, List.mem_append, List.mem_append]
  by_cases nothingBefore : before = 0
  · exact Or.inr (List.mem_replicate.mpr ⟨by omega, rfl⟩)
  · exact Or.inl (Or.inl (List.mem_replicate.mpr ⟨nothingBefore, rfl⟩))

/-- A text without blanks gets none from a filling that is not blank. -/
theorem noBlank_set (admits : slot.Admits text) (visible : isBlank slot.filler = false)
    (noBlank : ∀ c ∈ text.toList, isBlank c = false) : ∀ c ∈ (slot.set text).toList, isBlank c = false := by
  obtain ⟨before, behind, filled, -⟩ := slot.exists_fill_eq text.toList
  have noBlankFilling (count : Nat) : ∀ c ∈ List.replicate count slot.filler, isBlank c = false := by
    intro c member
    rw [(List.mem_replicate.mp member).2, visible]
  rw [set, cut_of_admits admits, filled, String.toList_ofList, List.forall_mem_append, List.forall_mem_append]
  exact ⟨⟨noBlankFilling before, noBlank⟩, noBlankFilling behind⟩

/-- Spaces that fill a slot add no word to what is left of the text. -/
theorem words_set (spaced : slot.style ≠ .starred) :
    words (slot.set text) = words (String.ofList (slot.cut text.toList)) := by
  obtain ⟨before, behind, filled, -⟩ := slot.exists_fill_eq (slot.cut text.toList)
  have allBlank (count : Nat) : AllBlank (String.ofList (List.replicate count ' ')) := by
    intro c member
    rw [String.toList_ofList, List.mem_replicate] at member
    rw [member.2]
    rfl
  rw [set, filled, filler_of_ne spaced, String.ofList_append, String.ofList_append,
    words_append_allBlank (allBlank behind), words_append_of_allBlank (allBlank before)]

end Uno.Text.Slot
