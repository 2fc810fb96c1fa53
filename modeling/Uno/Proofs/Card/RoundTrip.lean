import Uno.Proofs.Entry

/-!
# The written form of a card

A card is written by tags that spell it, one space apart. Reading the written form therefore gives the card
back. The line that describes a card has three columns with a tab between neighbours. No column has a tab in it,
so the columns can be taken from the line again, and since the first of them is the written card, the line
determines the card.

## Main definitions

* `Text.Printable` — a text that can be printed as it is
* `Text.columns`, `Card.columns` — the columns of a line, and those that a card has

## Main results

* `Card.read_text` — a written card is read back
* `Card.printable_text` — what is written is visible ASCII and spaces
* `Card.columns_line` — a line is taken apart into the columns of its card
* `Card.line_injective` — a line describes one card only
-/

namespace Uno

/-- A text that can be printed as it is: ASCII characters that are visible, and spaces. -/
def Text.Printable (text : String) : Prop :=
  ∀ c ∈ text.toList, 32 ≤ c.toNat ∧ c.toNat ≤ 126

instance : DecidablePred Text.Printable := fun text =>
  decidable_of_iff (text.toList.all (fun c => decide (32 ≤ c.toNat ∧ c.toNat ≤ 126)) = true)
    (by simp only [List.all_eq_true, decide_eq_true_eq, Text.Printable])

/-- A text that is given by its characters. Texts that are written out are of this kind. -/
theorem Text.printable_ofList {cs : List Char}
    (visible : cs.all (fun c => 32 ≤ c.toNat ∧ c.toNat ≤ 126) = true) : Printable (String.ofList cs) := by
  intro c member
  rw [String.toList_ofList] at member
  exact of_decide_eq_true (List.all_eq_true.mp visible c member)

theorem Text.Printable.append {left right : String} (printable : Printable left)
    (printable' : Printable right) : Printable (left ++ right) := by
  intro c member
  rw [String.toList_append, List.mem_append] at member
  exact member.elim (printable c) (printable' c)

theorem Text.Printable.tab_not_mem {text : String} (printable : Printable text) : '\t' ∉ text.toList := by
  intro member
  exact absurd (printable '\t' member).1 (by decide)

/-- The columns of a line, which are set apart by tabs. -/
def Text.columns (line : String) : List String :=
  (line.toList.splitOn '\t').map String.ofList

/-- The first column of a line. -/
def Text.firstColumn (line : String) : String :=
  (columns line).headD ""

/-- Columns without tabs are found again. -/
theorem Text.columns_intercalate {items : List String} (nonempty : items ≠ [])
    (noTab : ∀ item ∈ items, '\t' ∉ item.toList) : columns ("\t".intercalate items) = items := by
  have apart : ∀ cs ∈ items.map String.toList, '\t' ∉ cs := by
    intro cs member
    obtain ⟨item, listed, rfl⟩ := List.mem_map.mp member
    exact noTab item listed
  have found : (['\t'].intercalate (items.map String.toList)).splitOn '\t' = items.map String.toList :=
    List.splitOn_intercalate '\t' apart (mt List.map_eq_nil_iff.mp nonempty)
  have tab : "\t".toList = ['\t'] := rfl
  rw [columns, String.toList_intercalate, tab, found, List.map_map]
  simp

namespace Card

/-- A card is written as an entry that spells it. -/
theorem exists_spelled_entry (card : Card) :
    ∃ entry : Entry, entry.text = card.text ∧ Spelled entry card := by
  obtain ⟨color, value⟩ := card
  have isColor : Color.read color.text = .ok color :=
    Color.read_eq_ok_iff.mpr (Color.ofTag?_text color)
  cases value with
  | none => exact ⟨[color.text], Entry.text_singleton _, .plain isColor⟩
  | some value =>
    have isValue : Value.read value.text = .ok value :=
      Value.read_eq_ok_iff.mpr (Value.ofTag?_text value)
    exact ⟨[color.text, value.text], Entry.text_pair _ _, .valued isColor isValue⟩

/-- A written card is read back. -/
theorem read_text (card : Card) : read card.text = .ok card := by
  obtain ⟨entry, written, spelled⟩ := card.exists_spelled_entry
  rw [← written, Entry.read_text spelled.isWord, spelled.ofWords_eq]

theorem text_injective {left right : Card} (same : left.text = right.text) : left = right := by
  have readBack := left.read_text
  rw [same, right.read_text] at readBack
  exact (Except.ok.inj readBack).symm

/-! ### Characters -/

theorem printable_color_text (color : Color) : Text.Printable color.text := by
  have listed : ∀ color ∈ Color.all, Text.Printable color.text := by decide
  exact listed color (Color.mem_all color)

theorem printable_value_text (value : Value) : Text.Printable value.text := by
  cases value with
  | number rank =>
    -- A number is written in digits.
    intro c member
    have digit : 48 ≤ c.toNat ∧ c.toNat ≤ 57 :=
      Char.isDigit_iff_toNat.mp (Text.isDigit_of_mem_toString member)
    omega
  | action act =>
    have listed : ∀ act ∈ Action.all, Text.Printable act.text := by decide
    exact listed act (Action.mem_all act)

/-- What is written of a card is visible ASCII and spaces. -/
theorem printable_text (card : Card) : Text.Printable card.text := by
  obtain ⟨color, value⟩ := card
  cases value with
  | none => exact printable_color_text color
  | some value =>
    have space : Text.Printable " " := by decide
    exact ((printable_color_text color).append space).append (printable_value_text value)

theorem printable_valueText (card : Card) : Text.Printable card.valueText := by
  obtain ⟨color, value⟩ := card
  cases value with
  | none => exact (by decide : Text.Printable "-")
  | some value => exact printable_value_text value

/-- A written value is not the dash that stands for a missing one. -/
theorem valueText_eq_dash_iff (card : Card) : card.valueText = "-" ↔ card.value = none := by
  obtain ⟨color, value⟩ := card
  cases value with
  | none => exact iff_of_true rfl rfl
  | some value =>
    refine iff_of_false ?_ (Option.some_ne_none value)
    intro isDash
    -- A dash spells no value, but a written value is read back.
    have noValue : Value.ofTag? "-" = none := by decide
    have readBack := Value.ofTag?_text value
    rw [show value.text = "-" from isDash, noValue] at readBack
    contradiction

/-! ### Columns -/

/-- The columns of a line are its text, its color and its value, the last two with their names. -/
def columns (card : Card) : List String :=
  [card.text, "color=" ++ card.color.text, "value=" ++ card.valueText]

theorem printable_of_mem_columns (card : Card) : ∀ column ∈ card.columns, Text.Printable column := by
  have colorName : Text.Printable "color=" := by decide
  have valueName : Text.Printable "value=" := by decide
  simpa [columns] using And.intro card.printable_text
    (And.intro (colorName.append (printable_color_text card.color)) (valueName.append card.printable_valueText))

theorem line_eq_intercalate (card : Card) : card.line = "\t".intercalate card.columns := by
  rw [← String.toList_inj]
  simp [line, columns]

/-- A line is taken apart into its columns. -/
theorem columns_line (card : Card) : Text.columns card.line = card.columns := by
  rw [line_eq_intercalate]
  apply Text.columns_intercalate (List.cons_ne_nil _ _)
  intro column listed
  exact (card.printable_of_mem_columns column listed).tab_not_mem

theorem firstColumn_line (card : Card) : Text.firstColumn card.line = card.text := by
  rw [Text.firstColumn, columns_line]
  rfl

/-- A line has two tabs, which are the borders of its columns. -/
theorem count_tab_line (card : Card) : card.line.toList.count '\t' = 2 := by
  have text := List.count_eq_zero.mpr card.printable_text.tab_not_mem
  have color := List.count_eq_zero.mpr (printable_color_text card.color).tab_not_mem
  have value := List.count_eq_zero.mpr card.printable_valueText.tab_not_mem
  simp [line, text, color, value]

/-- Apart from its tabs a line is visible ASCII and spaces. -/
theorem printable_of_mem_line (card : Card) {c : Char} (member : c ∈ card.line.toList) (noTab : c ≠ '\t') :
    32 ≤ c.toNat ∧ c.toNat ≤ 126 := by
  have inColumn : ∃ column ∈ card.columns, c ∈ column.toList := by
    have cut : card.line.toList = card.text.toList ++ '\t' :: (("color=" ++ card.color.text).toList ++
        '\t' :: ("value=" ++ card.valueText).toList) := by
      simp [line]
    rw [cut] at member
    simpa only [columns, List.mem_append, List.mem_cons, noTab, false_or, List.not_mem_nil, or_false,
      exists_eq_or_imp, exists_eq_left] using member
  obtain ⟨column, listed, member⟩ := inColumn
  exact card.printable_of_mem_columns column listed c member

/-- A line describes one card only. -/
theorem line_injective {left right : Card} (same : left.line = right.line) : left = right := by
  have sameColumns := congrArg Text.columns same
  rw [columns_line, columns_line] at sameColumns
  exact text_injective (List.cons.inj sameColumns).1

end Card

end Uno
