import Mathlib.Data.Option.Basic
import Uno.Card.Outline
import Uno.Proofs.Text.Layout
import Uno.Proofs.Text.Numeral

/-!
# The outline of a reading tells the reading

Texts that were refused appear in the outline of a reading, and they can be made to look like the outline of another
one: a tag may hold quotes, backslashes, parentheses, braces and whole outlines. It makes no difference. The text stands
in quotes, which show where it ends, and what is around it is told from the outside to the inside: whether the reading
succeeded, then which fault or which value it came to, then the fields of the card. So readings with one outline have
one outcome, in the compact layout and in the indented one, and the two layouts tell the same readings apart.

The text of a fault brings no control into an outline. What line feeds there are in the indented layout come from its
brackets, and their number depends on the kind of the outcome only.

## Main definitions

* `Value.breaks`, `Card.breaks`, `CardError.breaks`, `outcomeBreaks` — the line feeds of an outline

## Main results

* `Color.outline_injective`, `Value.outline_injective`, `Card.outline_injective`, `CardError.outline_injective` — what
  an outline is the outline of
* `outcomeOutline_injective` — the outline of an outcome tells the outcome
* `hasBreaks_outcomeOutline` — the line feeds of an outline, which has no other control
* `Card.readOutline_faithful` — outlines of readings are equal when the readings are, and free of foreign controls
-/

namespace Uno

open Text (Layout ControlFree HasBreaks)

/-! ### An outline tells what it is the outline of -/

theorem Color.outline_injective : Function.Injective outline := by
  have apart : ∀ color ∈ all, ∀ color' ∈ all, outline color = outline color' → color = color' := by decide
  intro color color' same
  exact apart color (mem_all color) color' (mem_all color') same

/-- The name of a color has no comma in it. -/
theorem Color.comma_not_mem_outline (color : Color) : ',' ∉ color.outline.toList := by
  cases color <;> decide

theorem Action.name_injective : Function.Injective name := by
  have apart : ∀ act ∈ all, ∀ act' ∈ all, name act = name act' → act = act' := by decide
  intro act act' same
  exact apart act (mem_all act) act' (mem_all act') same

/-- The name of an action has no parenthesis in it. -/
theorem Action.parenthesis_not_mem_name (act : Action) : '(' ∉ act.name.toList := by
  cases act <;> decide

variable (layout : Layout)

theorem Value.outline_injective : Function.Injective (outline layout) := by
  intro value value' same
  rcases value with rank | act <;> rcases value' with rank' | act'
  · have sameNumeral := (layout.call_inj (by decide) (by decide) same).2
    rw [Fin.ext (Text.toString_inj sameNumeral)]
  · exact absurd same (layout.call_ne act'.parenthesis_not_mem_name)
  · exact absurd same.symm (layout.call_ne act.parenthesis_not_mem_name)
  · rw [Action.name_injective same]

theorem Card.outline_injective : Function.Injective (outline layout) := by
  intro card card' same
  obtain ⟨color, value⟩ := card
  obtain ⟨color', value'⟩ := card'
  obtain ⟨sameColor, sameValue⟩ :=
    layout.record_pair_inj (by decide) color.comma_not_mem_outline color'.comma_not_mem_outline same
  obtain rfl : color = color' := Color.outline_injective sameColor
  obtain rfl : value = value' :=
    Option.map_injective (Value.outline_injective layout) (layout.optional_injective sameValue)
  rfl

theorem CardError.outline_injective [Text.Repertoire] : Function.Injective (outline layout) := by
  have plain : '(' ∉ "Empty".toList := by decide
  intro fault fault' same
  cases fault <;> cases fault'
  case empty.empty => rfl
  -- Of one kind, the faults have the same text in quotes.
  case unknownColor.unknownColor | unknownValue.unknownValue | trailingInput.trailingInput =>
    have sameText := (layout.call_inj (by decide) (by decide) same).2
    rw [Text.quoted_injective sameText]
  case empty.unknownColor | empty.unknownValue | empty.trailingInput =>
    exact absurd same.symm (layout.call_ne plain)
  case unknownColor.empty | unknownValue.empty | trailingInput.empty =>
    exact absurd same (layout.call_ne plain)
  -- Of two kinds, they have two names.
  all_goals
    have sameName := (layout.call_inj (by decide) (by decide) same).1
    contradiction

/-- The outline of an outcome tells the outcome, if the outline of what was read tells that. -/
theorem outcomeOutline_injective [Text.Repertoire] {α : Type} {outline : α → String} (injective : Function.Injective outline) :
    Function.Injective (outcomeOutline layout outline) := by
  have plainOk : '(' ∉ "Ok".toList := by decide
  have plainErr : '(' ∉ "Err".toList := by decide
  intro outcome outcome' same
  cases outcome with
  | ok item =>
    cases outcome' with
    | ok item' => rw [injective (layout.call_inj plainOk plainOk same).2]
    | error fault' => exact absurd (layout.call_inj plainOk plainErr same).1 (by decide)
  | error fault =>
    cases outcome' with
    | ok item' => exact absurd (layout.call_inj plainErr plainOk same).1 (by decide)
    | error fault' => rw [CardError.outline_injective layout (layout.call_inj plainErr plainErr same).2]

/-! ### Line feeds and other controls -/

/-- The line feeds in the outline of a value. -/
def Value.breaks : Value → Nat
  | .number _ => layout.breaks 1
  | .action _ => 0

/-- The line feeds in the outline of a card. -/
def Card.breaks (card : Card) : Nat :=
  layout.breaks 2 +
    match card.value with
    | none => 0
    | some value => layout.breaks 1 + value.breaks layout

/-- The line feeds in the outline of a fault. The text that is complained about adds none. -/
def CardError.breaks : CardError → Nat
  | .empty => 0
  | .unknownColor _ | .unknownValue _ | .trailingInput _ => layout.breaks 1

/-- The line feeds in the outline of an outcome. -/
def outcomeBreaks {α : Type} (breaks : α → Nat) : Except CardError α → Nat
  | .ok item => layout.breaks 1 + breaks item
  | .error fault => layout.breaks 1 + fault.breaks layout

theorem Color.controlFree_outline (color : Color) : ControlFree color.outline := by
  cases color <;> exact Text.controlFree_ofList (by decide)

theorem Value.hasBreaks_outline (value : Value) : HasBreaks (value.outline layout) (value.breaks layout) := by
  rcases value with rank | act
  · have digits : ControlFree (toString rank.val) := by
      intro c member control
      have bounds : 48 ≤ c.toNat ∧ c.toNat ≤ 57 := Char.isDigit_iff_toNat.mp (Text.isDigit_of_mem_toString member)
      unfold Text.IsControl at control
      omega
    exact layout.hasBreaks_call (Text.controlFree_ofList (by decide)) (Text.hasBreaks_zero_iff.mpr digits)
  · apply Text.hasBreaks_zero_iff.mpr
    cases act <;> exact Text.controlFree_ofList (by decide)

theorem Card.hasBreaks_outline (card : Card) : HasBreaks (card.outline layout) (card.breaks layout) := by
  obtain ⟨color, value⟩ := card
  have colorName := Text.hasBreaks_zero_iff.mpr color.controlFree_outline
  have valueForm : HasBreaks (layout.optional (value.map (Value.outline layout)))
      (match value with
        | none => 0
        | some value => layout.breaks 1 + value.breaks layout) := by
    cases value with
    | none => exact Text.hasBreaks_zero_iff.mpr (Text.controlFree_ofList (by decide))
    | some value => exact layout.hasBreaks_call (Text.controlFree_ofList (by decide)) (value.hasBreaks_outline layout)
  have nameFree : ControlFree "Card" := Text.controlFree_ofList (by decide)
  have colorFree : ControlFree "color" := Text.controlFree_ofList (by decide)
  have valueFree : ControlFree "value" := Text.controlFree_ofList (by decide)
  have whole := layout.hasBreaks_record_pair nameFree colorFree valueFree colorName valueForm
  rw [Nat.add_zero] at whole
  exact whole

variable [Text.Repertoire]

theorem CardError.hasBreaks_outline (fault : CardError) : HasBreaks (fault.outline layout) (fault.breaks layout) := by
  have hasBreaks_quoted : ∀ text, HasBreaks (Text.quoted text) 0 :=
    fun text => Text.hasBreaks_zero_iff.mpr (Text.controlFree_quoted text)
  cases fault with
  | empty => exact Text.hasBreaks_zero_iff.mpr (Text.controlFree_ofList (by decide))
  | unknownColor tag => exact layout.hasBreaks_call (Text.controlFree_ofList (by decide)) (hasBreaks_quoted tag)
  | unknownValue tag => exact layout.hasBreaks_call (Text.controlFree_ofList (by decide)) (hasBreaks_quoted tag)
  | trailingInput rest => exact layout.hasBreaks_call (Text.controlFree_ofList (by decide)) (hasBreaks_quoted rest)

/-- The line feeds in the outline of an outcome are those of its brackets, and there is no other control in it. -/
theorem hasBreaks_outcomeOutline {α : Type} {outline : α → String} {breaks : α → Nat}
    (each : ∀ item, HasBreaks (outline item) (breaks item)) (outcome : Except CardError α) :
    HasBreaks (outcomeOutline layout outline outcome) (outcomeBreaks layout breaks outcome) := by
  cases outcome with
  | ok item => exact layout.hasBreaks_call (Text.controlFree_ofList (by decide)) (each item)
  | error fault => exact layout.hasBreaks_call (Text.controlFree_ofList (by decide)) (fault.hasBreaks_outline layout)

/-! ### Outlines of readings -/

theorem Color.readOutline_eq_iff {left right : String} :
    readOutline left = readOutline right ↔ read left = read right :=
  (outcomeOutline_injective .compact outline_injective).eq_iff

theorem Value.readOutline_eq_iff {left right : String} :
    readOutline left = readOutline right ↔ read left = read right :=
  (outcomeOutline_injective .compact (outline_injective .compact)).eq_iff

theorem Card.readOutline_eq_iff {left right : String} :
    readOutline layout left = readOutline layout right ↔ read left = read right :=
  (outcomeOutline_injective layout (outline_injective layout)).eq_iff

theorem Card.hasBreaks_readOutline (text : String) :
    HasBreaks (readOutline layout text) (outcomeBreaks layout (breaks layout) (read text)) :=
  hasBreaks_outcomeOutline layout (hasBreaks_outline layout) (read text)

/-- In the compact layout there is no control at all. -/
theorem controlFree_outcomeOutline {α : Type} {outline : α → String} {breaks : α → Nat}
    (each : ∀ item, HasBreaks (outline item) (breaks item)) (noBreaksIn : ∀ item, breaks item = 0)
    (outcome : Except CardError α) : ControlFree (outcomeOutline .compact outline outcome) := by
  have noBreaks : outcomeBreaks .compact breaks outcome = 0 := by
    cases outcome with
    | ok item => exact (Nat.zero_add (breaks item)).trans (noBreaksIn item)
    | error fault => cases fault <;> rfl
  apply Text.hasBreaks_zero_iff.mp
  rw [← noBreaks]
  exact hasBreaks_outcomeOutline .compact each outcome

theorem Color.controlFree_readOutline (text : String) : ControlFree (readOutline text) := by
  have each : ∀ color : Color, HasBreaks color.outline 0 :=
    fun color => Text.hasBreaks_zero_iff.mpr color.controlFree_outline
  exact controlFree_outcomeOutline each (fun _ => rfl) (read text)

theorem Value.controlFree_readOutline (text : String) : ControlFree (readOutline text) := by
  apply controlFree_outcomeOutline (hasBreaks_outline .compact) _ (read text)
  intro value
  cases value <;> rfl

theorem Card.controlFree_readOutline (text : String) : ControlFree (readOutline .compact text) := by
  apply controlFree_outcomeOutline (hasBreaks_outline .compact) _ (read text)
  rintro ⟨color, _ | rank | act⟩ <;> rfl

/-- **Outlines of readings are faithful.** Two texts that are read as cards have the same outline, in either layout,
exactly when the two readings have the same outcome: one card, or one kind of fault with the same text. So the two
layouts tell the same readings apart, and both agree with the comparison of outcomes. The same holds of texts that are
read as colors and as values. In the compact layout there is no ASCII control in an outline. In the indented layout
there are line feeds only, as many as the brackets of the outcome bring with them, so none of them comes from a text
that was refused. Nothing is asked of the texts. -/
theorem Card.readOutline_faithful :
    (∀ layout left right, readOutline layout left = readOutline layout right ↔ read left = read right) ∧
    (∀ left right, readOutline .compact left = readOutline .compact right ↔
      readOutline .indented left = readOutline .indented right) ∧
    (∀ layout left right, readOutline layout left = readOutline layout right ↔
      sameOutcome (read left) (read right) = true) ∧
    (∀ left right, Color.readOutline left = Color.readOutline right ↔ Color.read left = Color.read right) ∧
    (∀ left right, Value.readOutline left = Value.readOutline right ↔ Value.read left = Value.read right) ∧
    (∀ text, ∀ c ∈ (readOutline .compact text).toList, 32 ≤ c.toNat ∧ c.toNat ≠ 127) ∧
    (∀ text, ∀ c ∈ (Color.readOutline text).toList, 32 ≤ c.toNat ∧ c.toNat ≠ 127) ∧
    (∀ text, ∀ c ∈ (Value.readOutline text).toList, 32 ≤ c.toNat ∧ c.toNat ≠ 127) ∧
    (∀ text, ∀ c ∈ (readOutline .indented text).toList, c.toNat < 32 ∨ c.toNat = 127 → c = '\n') ∧
    ∀ text, (readOutline .indented text).toList.count '\n' =
      outcomeBreaks .indented (breaks .indented) (read text) := by
  have shown : ∀ {text : String}, ControlFree text → ∀ c ∈ text.toList, 32 ≤ c.toNat ∧ c.toNat ≠ 127 := by
    intro text free c member
    have noControl := free c member
    unfold Text.IsControl at noControl
    omega
  refine ⟨fun layout left right => readOutline_eq_iff layout, ?_, ?_, fun left right => Color.readOutline_eq_iff,
    fun left right => Value.readOutline_eq_iff, fun text => shown (controlFree_readOutline text),
    fun text => shown (Color.controlFree_readOutline text), fun text => shown (Value.controlFree_readOutline text),
    fun text => (hasBreaks_readOutline .indented text).isBreak,
    fun text => (hasBreaks_readOutline .indented text).count_eq⟩
  · intro left right
    exact (readOutline_eq_iff .compact).trans (readOutline_eq_iff .indented).symm
  · intro layout left right
    exact (readOutline_eq_iff layout).trans sameOutcome_iff.symm

end Uno
