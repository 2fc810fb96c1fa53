import Uno.Command
import Uno.Proofs.Text.Quoted

/-!
# The outline of a command

A command is noted as one line that shows its structure. The texts of its cards can be anything, also what looks like
the end of a list or like another command. As each of them stands in quotes, and quoted texts show where they end, the
outline tells the command that it was made from, with the same texts in the same order. It keeps to one line, since
the quotes leave no control in it.

## Main results

* `Text.selfDelimiting_list` — a list of quoted texts shows where it ends
* `Command.outline_injective` — an outline is that of one command only
* `Command.controlFree_outline` — no control is left in an outline
-/

namespace Uno

open Text (Layout SelfDelimiting ControlFree)

namespace Text

/-! ### Lists of quoted texts -/

/-- The first of several items stands alone, and each other one has the separator in front of it. -/
theorem toList_intercalate_cons (item : String) (items : List String) :
    (", ".intercalate (item :: items)).toList =
      item.toList ++ items.flatMap fun next => ", ".toList ++ next.toList := by
  induction items generalizing item with
  | nil => simp
  | cons next items ih =>
    rw [String.intercalate_cons_cons, String.toList_append, ih]
    simp

variable [Repertoire]

theorem toList_list_nil : (Layout.compact.list ([].map quoted)).toList = ['[', ']'] := by
  rw [List.map_nil]
  rfl

theorem toList_list_cons (text : String) (texts : List String) :
    (Layout.compact.list ((text :: texts).map quoted)).toList =
      '[' :: ((quoted text).toList ++
        (texts.flatMap fun next => ", ".toList ++ (quoted next).toList) ++ [']']) := by
  have nonempty : ((text :: texts).map quoted).isEmpty = false := rfl
  rw [Layout.list, nonempty, if_neg Bool.false_ne_true, Layout.block, List.map_cons, String.toList_append,
    String.toList_append, String.toList_append, String.toList_append, toList_intercalate_cons, List.flatMap_map]
  simp

/-- A list of quoted texts shows where it ends. -/
theorem selfDelimiting_list :
    SelfDelimiting fun texts : List String => (Layout.compact.list (texts.map quoted)).toList := by
  -- The item behind a separator begins with a comma, and so does not look like the end of the list.
  have separated : SelfDelimiting fun next => ", ".toList ++ (quoted next).toList :=
    selfDelimiting_quoted.append_left ", ".toList
  have begins : ∀ next : String, ∃ c cs, ", ".toList ++ (quoted next).toList = c :: cs ∧ c ≠ ']' :=
    fun next => ⟨',', _, rfl, by decide⟩
  intro texts texts' rest rest' same
  cases texts with
  | nil =>
    cases texts' with
    | nil => exact ⟨rfl, List.append_cancel_left same⟩
    | cons text' texts' =>
      simp only [toList_list_nil, toList_list_cons, toList_quoted, List.cons_append] at same
      exact absurd (List.cons.inj (List.cons.inj same).2).1 (by decide)
  | cons text texts =>
    cases texts' with
    | nil =>
      simp only [toList_list_nil, toList_list_cons, toList_quoted, List.cons_append] at same
      exact absurd (List.cons.inj (List.cons.inj same).2).1 (by decide)
    | cons text' texts' =>
      simp only [toList_list_cons, List.cons_append, List.append_assoc, List.cons.injEq, true_and] at same
      obtain ⟨rfl, sameBehind⟩ := selfDelimiting_quoted same
      obtain ⟨rfl, sameRest⟩ := separated.flatMap_inj begins sameBehind
      exact ⟨rfl, sameRest⟩

theorem controlFree_list (texts : List String) : ControlFree (Layout.compact.list (texts.map quoted)) := by
  cases texts with
  | nil => exact controlFree_ofList (by decide)
  | cons text texts =>
    have signs : ∀ c ∈ ['[', ',', ' ', ']'], ¬ IsControl c := notControl_of_all (by decide)
    have separator : ", ".toList = [',', ' '] := rfl
    intro c member
    simp only [toList_list_cons, separator, List.mem_cons, List.mem_append, List.mem_flatMap, List.not_mem_nil,
      or_false] at member
    rcases member with rfl | (inFirst | ⟨next, -, (rfl | rfl) | inNext⟩) | rfl
    · exact signs _ (by simp)
    · exact controlFree_quoted text c inFirst
    · exact signs _ (by simp)
    · exact signs _ (by simp)
    · exact controlFree_quoted next c inNext
    · exact signs _ (by simp)

end Text

namespace Command

variable [Text.Repertoire]

theorem outline_show (cards : List String) :
    (Command.show cards).outline =
      "Args \x7b command: Show \x7b cards: " ++ (Layout.compact.list (cards.map Text.quoted) ++ " \x7d \x7d") := by
  rw [← String.toList_inj]
  simp [outline, Layout.record, Layout.block]

theorem outline_colors : Command.colors.outline = "Args \x7b command: Colors \x7d" := rfl

/-- An outline is that of one command only. -/
theorem outline_injective : Function.Injective outline := by
  intro command command' same
  rw [← String.toList_inj] at same
  rcases command with cards | _ <;> rcases command' with cards' | _
  · simp only [outline_show, String.toList_append] at same
    obtain ⟨rfl, -⟩ := Text.selfDelimiting_list (List.append_cancel_left same)
    rfl
  -- The names of the two commands differ in their first letter.
  · simp [outline_show, outline_colors] at same
  · simp [outline_show, outline_colors] at same
  · rfl

/-- No control is left in an outline. -/
theorem controlFree_outline (command : Command) : ControlFree command.outline := by
  rcases command with cards | _
  · rw [outline_show, Text.controlFree_append_iff, Text.controlFree_append_iff]
    exact ⟨Text.controlFree_ofList (by decide), Text.controlFree_list cards, Text.controlFree_ofList (by decide)⟩
  · rw [outline_colors]
    exact Text.controlFree_ofList (by decide)

end Command

end Uno
