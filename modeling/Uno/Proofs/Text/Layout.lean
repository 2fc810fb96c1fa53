import Uno.Proofs.Text.Quoted
import Uno.Text.Layout

/-!
# The structural notation can be taken apart again

A constructor's name ends where its parenthesis opens, and the argument ends at the last character of the text, or the
last line. So a name without a parenthesis in it and the argument can be told from what is written, in either layout:
the indented layout moves the lines of the argument to the right, and moving them back is possible, since a margin
stands behind each line feed and nowhere else counts as one. The items of a record are told apart in the same way at
the first comma, as long as the first of them has none.

Brackets bring no ASCII control with them but the line feeds of the indented layout, one behind the opening bracket and
one behind each item. A notation is therefore as free of controls as the items that are put into it.

## Main definitions

* `Text.HasBreaks` — a text with a given number of line feeds and no other control
* `Layout.breaks` — the line feeds that a pair of brackets brings with it

## Main results

* `Text.indentChars_injective` — a text can be told from its indented form
* `Layout.call_inj`, `Layout.record_pair_inj`, `Layout.optional_injective` — the parts of the bracketed forms
* `Layout.hasBreaks_call`, `Layout.hasBreaks_record_pair` — the line feeds of the bracketed forms
-/

namespace Uno.Text

/-! ### Indentation -/

/-- A text can be told from its indented form. -/
theorem indentChars_injective : Function.Injective indentChars := by
  -- Whatever its form is, an indented character begins with that character.
  have begins : ∀ c, ∃ behind, (if c = '\n' then '\n' :: margin else [c]) = c :: behind := by
    intro c
    by_cases isNewline : c = '\n'
    · exact ⟨margin, by rw [if_pos isNewline, isNewline]⟩
    · exact ⟨[], if_neg isNewline⟩
  have self : SelfDelimiting fun c => if c = '\n' then '\n' :: margin else [c] := by
    intro c d rest rest' same
    obtain ⟨behind, form⟩ := begins c
    obtain ⟨behind', form'⟩ := begins d
    have first : c = d := by
      simp only [form, form', List.cons_append] at same
      exact (List.cons.inj same).1
    rw [first, List.append_cancel_left_eq] at same
    exact ⟨first, same⟩
  have nonempty : ∀ c, (if c = '\n' then '\n' :: margin else [c]) ≠ [] := by
    intro c
    obtain ⟨behind, form⟩ := begins c
    rw [form]
    exact List.cons_ne_nil c behind
  intro cs ds same
  exact self.flatMap_injective nonempty (List.append_cancel_left same)

/-- Indentation adds spaces only. -/
theorem mem_indentChars {c : Char} {cs : List Char} (member : c ∈ indentChars cs) : c = ' ' ∨ c ∈ cs := by
  have spaces : ∀ d ∈ margin, d = ' ' := by simp [margin]
  rcases List.mem_append.mp member with inMargin | inBody
  · exact Or.inl (spaces c inMargin)
  · obtain ⟨d, member', isForm⟩ := List.mem_flatMap.mp inBody
    split at isForm
    · rename_i isNewline
      rcases List.mem_cons.mp isForm with rfl | inMargin
      · exact Or.inr (isNewline ▸ member')
      · exact Or.inl (spaces c inMargin)
    · rw [List.mem_singleton.mp isForm]
      exact Or.inr member'

/-- Indentation adds no line feed. -/
theorem count_newline_indentChars (cs : List Char) : (indentChars cs).count '\n' = cs.count '\n' := by
  have body : (cs.flatMap fun c => if c = '\n' then '\n' :: margin else [c]).count '\n' = cs.count '\n' := by
    induction cs with
    | nil => rfl
    | cons c cs ih =>
      rw [List.flatMap_cons, List.count_append, ih, Nat.add_comm, List.count_cons]
      by_cases isNewline : c = '\n'
      · simp [isNewline, margin]
      · simp [isNewline]
  have spaces : margin.count '\n' = 0 := by decide
  rw [indentChars, List.count_append, body, spaces, Nat.zero_add]

/-! ### Constructors and records -/

namespace Layout

variable (layout : Layout) {name name' argument argument' : String}

theorem toList_call_compact (name argument : String) :
    (Layout.compact.call name argument).toList = name.toList ++ '(' :: (argument.toList ++ [')']) := by
  simp [call, block]

theorem toList_call_indented (name argument : String) :
    (Layout.indented.call name argument).toList =
      name.toList ++ '(' :: '\n' :: (indentChars argument.toList ++ [',', '\n', ')']) := by
  simp [call, block, indent]

/-- The name of a constructor and its argument can be told, as long as the name has no parenthesis in it. -/
theorem call_inj (plain : '(' ∉ name.toList) (plain' : '(' ∉ name'.toList)
    (same : layout.call name argument = layout.call name' argument') : name = name' ∧ argument = argument' := by
  rw [← String.toList_inj] at same
  cases layout with
  | compact =>
    rw [toList_call_compact, toList_call_compact] at same
    obtain ⟨sameName, sameBehind⟩ := append_stop_inj plain plain' same
    exact ⟨String.toList_inj.mp sameName, String.toList_inj.mp (List.append_cancel_right sameBehind)⟩
  | indented =>
    rw [toList_call_indented, toList_call_indented] at same
    obtain ⟨sameName, sameBehind⟩ := append_stop_inj plain plain' same
    have sameLines := List.append_cancel_right (List.cons.inj sameBehind).2
    exact ⟨String.toList_inj.mp sameName, String.toList_inj.mp (indentChars_injective sameLines)⟩

/-- A text without a parenthesis is no constructor with an argument. -/
theorem call_ne {text : String} (plain : '(' ∉ text.toList) : layout.call name argument ≠ text := by
  rintro rfl
  apply plain
  cases layout with
  | compact => simp [toList_call_compact]
  | indented => simp [toList_call_indented]

/-- What may be missing can be told, and whether it is. -/
theorem optional_injective : Function.Injective layout.optional := by
  have plain : '(' ∉ "None".toList := by decide
  intro item item' same
  cases item with
  | none =>
    cases item' with
    | none => rfl
    | some text' => exact absurd same.symm (layout.call_ne plain)
  | some text =>
    cases item' with
    | none => exact absurd same (layout.call_ne plain)
    | some text' => rw [(layout.call_inj (by decide) (by decide) same).2]

/-- Of two items between brackets both can be told, as long as the first has no comma in it. -/
theorem block_pair_inj {opening gap closing first first' second second' : String} (plain : ',' ∉ first.toList)
    (plain' : ',' ∉ first'.toList)
    (same : layout.block opening gap [first, second] closing = layout.block opening gap [first', second'] closing) :
    first = first' ∧ second = second' := by
  rw [← String.toList_inj] at same
  cases layout with
  | compact =>
    have separator : ", ".toList = [',', ' '] := rfl
    simp only [block, String.intercalate_cons_cons, String.intercalate_singleton, String.toList_append, separator,
      List.append_assoc, List.append_cancel_left_eq, List.cons_append, List.nil_append] at same
    obtain ⟨sameFirst, sameBehind⟩ := append_stop_inj plain plain' same
    have sameSecond := List.append_cancel_right (List.cons.inj sameBehind).2
    exact ⟨String.toList_inj.mp sameFirst, String.toList_inj.mp sameSecond⟩
  | indented =>
    have plainLines : ∀ {text : String}, ',' ∉ text.toList → ',' ∉ indentChars text.toList := by
      intro text free member
      rcases mem_indentChars member with isSpace | inText
      · contradiction
      · exact free inText
    have ending : ",\n".toList = [',', '\n'] := rfl
    simp only [block, indent, List.map_cons, List.map_nil, String.join_cons, String.join_nil, String.toList_append,
      String.toList_ofList, ending, List.append_assoc, List.append_cancel_left_eq, List.cons_append,
      List.nil_append] at same
    obtain ⟨sameFirst, sameBehind⟩ := append_stop_inj (plainLines plain) (plainLines plain') same
    have sameSecond := List.append_cancel_right (List.cons.inj sameBehind).2
    exact ⟨String.toList_inj.mp (indentChars_injective sameFirst),
      String.toList_inj.mp (indentChars_injective sameSecond)⟩

/-- Of a record with two fields both values can be told, as long as the first field has no comma in it. -/
theorem record_pair_inj {field field' value value' other other' : String} (plainField : ',' ∉ field.toList)
    (plain : ',' ∉ value.toList) (plain' : ',' ∉ value'.toList)
    (same : layout.record name [(field, value), (field', other)] =
      layout.record name [(field, value'), (field', other')]) : value = value' ∧ other = other' := by
  have separator : ',' ∉ ": ".toList := by decide
  have plainItem : ',' ∉ (field ++ ": " ++ value).toList := by
    simpa only [String.toList_append, List.mem_append, not_or] using ⟨⟨plainField, separator⟩, plain⟩
  have plainItem' : ',' ∉ (field ++ ": " ++ value').toList := by
    simpa only [String.toList_append, List.mem_append, not_or] using ⟨⟨plainField, separator⟩, plain'⟩
  obtain ⟨sameItem, sameOther⟩ := layout.block_pair_inj plainItem plainItem' same
  exact ⟨(String.append_right_inj _).mp sameItem, (String.append_right_inj _).mp sameOther⟩

end Layout

/-! ### Line feeds -/

/-- A text in which line feeds are the only ASCII controls, with the number of them. -/
structure HasBreaks (text : String) (breaks : Nat) : Prop where
  /-- There is no other control. -/
  isBreak : ∀ c ∈ text.toList, IsControl c → c = '\n'
  /-- This many line feeds there are. -/
  count_eq : text.toList.count '\n' = breaks

variable {text left right : String} {n m : Nat}

/-- A text has no control when it has no line feed and no other control. -/
theorem hasBreaks_zero_iff : HasBreaks text 0 ↔ ControlFree text := by
  constructor
  · intro none c member isControl
    have isNewline := none.isBreak c member isControl
    exact List.count_eq_zero.mp none.count_eq (isNewline ▸ member)
  · intro free
    refine ⟨fun c member isControl => absurd isControl (free c member), List.count_eq_zero.mpr ?_⟩
    intro member
    exact free '\n' member (by decide)

theorem HasBreaks.append (hasBreaks : HasBreaks left n) (hasBreaks' : HasBreaks right m) :
    HasBreaks (left ++ right) (n + m) where
  isBreak := by
    rw [String.toList_append, List.forall_mem_append]
    exact ⟨hasBreaks.isBreak, hasBreaks'.isBreak⟩
  count_eq := by rw [String.toList_append, List.count_append, hasBreaks.count_eq, hasBreaks'.count_eq]

theorem hasBreaks_newline : HasBreaks "\n" 1 where
  isBreak := by simp
  count_eq := rfl

/-- Indentation leaves the line feeds, and adds no control. -/
theorem HasBreaks.indent (hasBreaks : HasBreaks text n) : HasBreaks (indent text) n where
  isBreak := by
    intro c member isControl
    rw [Text.indent, String.toList_ofList] at member
    rcases mem_indentChars member with rfl | inText
    · exact absurd isControl (by decide)
    · exact hasBreaks.isBreak c inText isControl
  count_eq := by rw [Text.indent, String.toList_ofList, count_newline_indentChars, hasBreaks.count_eq]

namespace Layout

/-- The line feeds that a pair of brackets brings with it, given the number of items between them: one behind the
opening bracket and one behind each item in the indented layout, and none in the compact layout. -/
def breaks : Layout → Nat → Nat
  | .compact, _ => 0
  | .indented, items => items + 1

variable (layout : Layout)

/-- A line of the indented layout has the line feeds of its item and the one that ends it. -/
theorem hasBreaks_line (hasBreaks : HasBreaks text n) : HasBreaks (indent text ++ ",\n") (n + 1) := by
  have comma : HasBreaks "," 0 := hasBreaks_zero_iff.mpr (controlFree_ofList (by decide))
  have ending : HasBreaks ",\n" (0 + 1) := comma.append hasBreaks_newline
  exact Nat.zero_add 1 ▸ hasBreaks.indent.append ending

/-- A constructor has the line feeds of its argument and those that its parentheses bring with them. -/
theorem hasBreaks_call {name argument : String} (nameFree : ControlFree name) (hasBreaks : HasBreaks argument n) :
    HasBreaks (layout.call name argument) (layout.breaks 1 + n) := by
  have parenthesis : ControlFree "(" := controlFree_ofList (by decide)
  have opening := hasBreaks_zero_iff.mpr (controlFree_append_iff.mpr ⟨nameFree, parenthesis⟩)
  have closing : HasBreaks ")" 0 := hasBreaks_zero_iff.mpr (controlFree_ofList (by decide))
  cases layout with
  | compact =>
    have whole := (opening.append hasBreaks).append closing
    simpa [call, block, breaks] using whole
  | indented =>
    have whole := ((opening.append hasBreaks_newline).append (hasBreaks_line hasBreaks)).append closing
    have total : 0 + 1 + (n + 1) + 0 = Layout.indented.breaks 1 + n := by
      rw [breaks]
      omega
    simpa [call, block] using total ▸ whole

/-- A record with two fields has the line feeds of their values and those that its braces bring with them. -/
theorem hasBreaks_record_pair {name field field' value value' : String} (nameFree : ControlFree name)
    (fieldFree : ControlFree field) (fieldFree' : ControlFree field') (hasBreaks : HasBreaks value n)
    (hasBreaks' : HasBreaks value' m) :
    HasBreaks (layout.record name [(field, value), (field', value')]) (layout.breaks 2 + n + m) := by
  have brace : ControlFree " \x7b" := controlFree_ofList (by decide)
  have separator : ControlFree ": " := controlFree_ofList (by decide)
  have opening := hasBreaks_zero_iff.mpr (controlFree_append_iff.mpr ⟨nameFree, brace⟩)
  have closing : HasBreaks "\x7d" 0 := hasBreaks_zero_iff.mpr (controlFree_ofList (by decide))
  have first := (hasBreaks_zero_iff.mpr (controlFree_append_iff.mpr ⟨fieldFree, separator⟩)).append hasBreaks
  have second := (hasBreaks_zero_iff.mpr (controlFree_append_iff.mpr ⟨fieldFree', separator⟩)).append hasBreaks'
  rw [Nat.zero_add] at first second
  cases layout with
  | compact =>
    have gap : HasBreaks " " 0 := hasBreaks_zero_iff.mpr (controlFree_ofList (by decide))
    have comma : HasBreaks ", " 0 := hasBreaks_zero_iff.mpr (controlFree_ofList (by decide))
    have whole := (((opening.append gap).append ((first.append comma).append second)).append gap).append closing
    simpa [record, block, breaks, String.intercalate_cons_cons] using whole
  | indented =>
    have lines := (hasBreaks_line first).append (hasBreaks_line second)
    have whole := ((opening.append hasBreaks_newline).append lines).append closing
    have total : 0 + 1 + (n + 1 + (m + 1)) + 0 = Layout.indented.breaks 2 + n + m := by
      rw [breaks]
      omega
    simpa [record, block] using total ▸ whole

end Layout

end Uno.Text
