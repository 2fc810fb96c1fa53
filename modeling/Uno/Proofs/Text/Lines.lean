/-!
# Lines that are ended

What is printed line by line is one text in the end: the lines with a line feed behind each of them. As long as no
line has a line feed in it, nothing is lost by that, since the line feeds of the text are the ends of its lines.

## Main results

* `Text.count_newline_join` — there are as many line feeds as lines
* `Text.getLast?_join` — a text of lines ends with a line feed
* `Text.join_eq_empty_iff` — only no lines at all leave the text empty
-/

namespace Uno.Text

variable {lines : List String}

/-- The characters of ended lines. -/
theorem toList_join_lines (lines : List String) :
    (String.join (lines.map (· ++ "\n"))).toList = lines.flatMap fun line => line.toList ++ ['\n'] := by
  rw [String.toList_join, List.flatMap_map]
  simp

/-- What is in a text of lines is in a line, or it ends one. -/
theorem mem_join_lines_iff {c : Char} :
    c ∈ (String.join (lines.map (· ++ "\n"))).toList ↔ ∃ line ∈ lines, c ∈ line.toList ∨ c = '\n' := by
  rw [toList_join_lines]
  simp

/-- There are as many line feeds as lines. -/
theorem count_newline_join (oneLine : ∀ line ∈ lines, '\n' ∉ line.toList) :
    (String.join (lines.map (· ++ "\n"))).toList.count '\n' = lines.length := by
  rw [toList_join_lines]
  induction lines with
  | nil => rfl
  | cons line lines ih =>
    rw [List.forall_mem_cons] at oneLine
    rw [List.flatMap_cons, List.count_append, ih oneLine.2, List.count_append,
      List.count_eq_zero.mpr oneLine.1, List.length_cons]
    exact Nat.add_comm 1 lines.length

/-- A text of lines ends with a line feed. -/
theorem getLast?_join (nonempty : lines ≠ []) :
    (String.join (lines.map (· ++ "\n"))).toList.getLast? = some '\n' := by
  have whole := List.dropLast_concat_getLast nonempty
  rw [toList_join_lines, ← whole]
  simp

/-- Only no lines at all leave the text empty. -/
theorem join_eq_empty_iff : String.join (lines.map (· ++ "\n")) = "" ↔ lines = [] := by
  rw [← String.toList_eq_nil_iff, toList_join_lines, List.eq_nil_iff_forall_not_mem (l := lines)]
  simp

end Uno.Text
