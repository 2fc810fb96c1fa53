import Uno.Card.Reader
import Uno.Proofs.Text.LetterCase
import Uno.Proofs.Text.Numeral

/-!
# The tags of colors and of values

What the readers of tags accept is listed here once more, without a search through tables: a color has one or
two tags, an action one to three, all of them in any letter case, and a number has its numeral. The lists have
no tag in common. A value tag is therefore never taken for the color of the next card, and this is what keeps
the cards of a sequence of words apart.

All tags look alike. They are short, have nothing but visible ASCII characters, and do not begin with a dash. So a tag
is its only word, is no option of a command, and can be shown as it is, and a character from outside ASCII that becomes
one of the letters when its case is folded makes no tag. The spellings in the tables have this shape, and letter case
does not matter to it. Of digits there can be any number, and what keeps them short is the bound on the numbers: a
number up to 255 is written in three digits, and no numeral is made longer by zeros in front.

## Main definitions

* `Color.SpelledBy`, `Value.SpelledBy` — the tags of a color and of a value
* `Text.TagShaped` — what a tag looks like

## Main results

* `Color.read_eq_ok_iff_spelledBy`, `Value.read_eq_ok_iff_spelledBy` — the readers accept these tags
* `Color.of_read`, `Value.of_read` — what is true of the tables of spellings, in any letter case, is true of all tags
* `Color.tagShaped_of_read`, `Value.tagShaped_of_read` — tags have the shape of tags
* `Color.isTag_of_read_value` — no value tag is a color tag
* `Color.ofTag?_congr`, `Value.ofTag?_congr` — letter case has no influence on the meaning of a tag
* `tags_apart_and_shaped` — the two kinds of tags are apart, and both have the shape
-/

namespace Uno

open Text (EqualUpToCase IsWord)

/-- The tags of a color, in any letter case. -/
def Color.SpelledBy : Color → String → Prop
  | .red, tag => EqualUpToCase tag "RED"
  | .blue, tag => EqualUpToCase tag "BLUE"
  | .green, tag => EqualUpToCase tag "GREEN"
  | .yellow, tag => EqualUpToCase tag "YELLOW"
  | .wild, tag => EqualUpToCase tag "WILD"
  | .wildDrawFour, tag => EqualUpToCase tag "WILD4+" ∨ EqualUpToCase tag "WILD_DRAW_FOUR"

/-- The tags of a value: the numeral of a number, without zeros in front, or the tags of an action in any
letter case. -/
def Value.SpelledBy : Value → String → Prop
  | .number rank, tag => tag = toString rank.val
  | .action .skip, tag => EqualUpToCase tag "SKIP"
  | .action .reverse, tag => EqualUpToCase tag "REVERSE"
  | .action .drawTwo, tag =>
    EqualUpToCase tag "DRAW_TWO" ∨ EqualUpToCase tag "DRAW2" ∨ EqualUpToCase tag "+2"

/-! ### Looking tags up -/

/-- A table is searched without regard to its order when no spelling in it belongs to two entries. -/
theorem find?_spellings_eq_some_iff {α : Type} {all : List α} {spellings : α → List String}
    (apart : ∀ x ∈ all, ∀ y ∈ all, ∀ s ∈ spellings x, ∀ t ∈ spellings y,
      Text.capitals s = Text.capitals t → x = y)
    {x : α} (listed : x ∈ all) {tag : String} :
    all.find? (fun y => (spellings y).any (Text.sameLetters tag)) = some x ↔
      ∃ s ∈ spellings x, Text.sameLetters tag s = true := by
  constructor
  · intro found
    simpa using List.find?_some found
  · intro agrees
    obtain ⟨s, spells, same⟩ := agrees
    -- The search finds some entry `y`. It has a spelling with the same capitals, so it is `x`.
    have hit : (all.find? fun y => (spellings y).any (Text.sameLetters tag)).isSome = true :=
      List.find?_isSome.mpr ⟨x, listed, List.any_eq_true.mpr ⟨s, spells, same⟩⟩
    obtain ⟨y, found⟩ := Option.isSome_iff_exists.mp hit
    have agrees' : (spellings y).any (Text.sameLetters tag) = true := by
      simpa using List.find?_some found
    obtain ⟨t, spells', same'⟩ := List.any_eq_true.mp agrees'
    rw [Text.sameLetters_iff] at same same'
    have listed' := List.mem_of_find?_eq_some found
    rw [found, apart x listed y listed' s spells t spells' (same.symm.trans same')]

theorem Color.ofTag?_eq_some_iff {tag : String} {color : Color} :
    ofTag? tag = some color ↔ ∃ s ∈ color.spellings, Text.sameLetters tag s = true :=
  find?_spellings_eq_some_iff (by decide) (mem_all color)

theorem Action.ofTag?_eq_some_iff {tag : String} {act : Action} :
    ofTag? tag = some act ↔ ∃ s ∈ act.spellings, Text.sameLetters tag s = true :=
  find?_spellings_eq_some_iff (by decide) (mem_all act)

/-! ### Digits are no names -/

/-- What agrees with a text of digits up to case consists of digits. -/
theorem all_isDigit_of_sameLetters {tag s : String} (digits : ∀ c ∈ tag.toList, c.isDigit = true)
    (same : Text.sameLetters tag s = true) : (Text.capitals s).all Char.isDigit = true := by
  rw [← Text.sameLetters_iff.mp same, List.all_eq_true]
  intro c member
  obtain ⟨d, member', rfl⟩ := List.mem_map.mp member
  have digit := digits d member'
  have bounds : 48 ≤ d.toNat ∧ d.toNat ≤ 57 := Char.isDigit_iff_toNat.mp digit
  -- A digit is its own capital.
  have unchanged : d.toUpper = d := by
    rw [← Char.toNat_inj, Text.toNat_toUpper, if_neg (by omega)]
  rw [unchanged]
  exact digit

/-- A text of digits is found in no table whose spellings are not all digits. -/
theorem find?_spellings_of_digits {α : Type} {all : List α} {spellings : α → List String}
    (named : ∀ x ∈ all, ∀ s ∈ spellings x, (Text.capitals s).all Char.isDigit = false) {tag : String}
    (digits : ∀ c ∈ tag.toList, c.isDigit = true) :
    all.find? (fun x => (spellings x).any (Text.sameLetters tag)) = none := by
  rw [List.find?_eq_none]
  intro x listed agrees
  obtain ⟨s, spells, same⟩ := List.any_eq_true.mp agrees
  have allDigits := all_isDigit_of_sameLetters digits same
  rw [named x listed s spells] at allDigits
  contradiction

theorem Color.ofTag?_of_digits {tag : String} (digits : ∀ c ∈ tag.toList, c.isDigit = true) :
    ofTag? tag = none :=
  find?_spellings_of_digits (by decide) digits

theorem Action.ofTag?_of_digits {tag : String} (digits : ∀ c ∈ tag.toList, c.isDigit = true) :
    ofTag? tag = none :=
  find?_spellings_of_digits (by decide) digits

/-- A tag spells a number when it is the numeral of that number. -/
theorem Value.ofTag?_eq_number_iff {tag : String} {rank : Fin 256} :
    ofTag? tag = some (.number rank) ↔ tag = toString rank.val := by
  constructor
  · intro isValue
    unfold ofTag? at isValue
    cases h : Text.numeral? tag with
    | some n =>
      rw [h] at isValue
      by_cases bound : n < 256
      · simp only [dif_pos bound, Option.some.injEq, number.injEq] at isValue
        rw [Text.numeral?_eq_some_iff_eq_toString.mp h, ← isValue]
      · simp [bound] at isValue
    | none => simp [h] at isValue
  · intro written
    rw [written]
    exact ofTag?_text (.number rank)

/-- A tag spells an action when it is in the table of actions. -/
theorem Value.ofTag?_eq_action_iff {tag : String} {act : Action} :
    ofTag? tag = some (.action act) ↔ Action.ofTag? tag = some act := by
  unfold ofTag?
  cases h : Text.numeral? tag with
  | some n =>
    -- A numeral is a number or nothing, and it is not in the table of actions.
    rw [Text.numeral?_eq_some_iff_eq_toString.mp h, Action.ofTag?_of_digits fun _ => Text.isDigit_of_mem_toString]
    by_cases bound : n < 256
    · simp [bound]
    · simp [bound]
  | none => simp

/-! ### Which tags are read -/

theorem Color.ofTag?_eq_some_iff_spelledBy {tag : String} {color : Color} :
    ofTag? tag = some color ↔ color.SpelledBy tag := by
  rw [ofTag?_eq_some_iff]
  cases color <;> simp [spellings, SpelledBy, Text.sameLetters_iff_equalUpToCase]

theorem Value.ofTag?_eq_some_iff_spelledBy {tag : String} {value : Value} :
    ofTag? tag = some value ↔ value.SpelledBy tag := by
  rcases value with rank | act
  · exact ofTag?_eq_number_iff
  · rw [ofTag?_eq_action_iff, Action.ofTag?_eq_some_iff]
    cases act <;> simp [Action.spellings, SpelledBy, Text.sameLetters_iff_equalUpToCase]

theorem Color.read_eq_ok_iff_spelledBy {tag : String} {color : Color} :
    read tag = .ok color ↔ color.SpelledBy tag :=
  read_eq_ok_iff.trans ofTag?_eq_some_iff_spelledBy

theorem Value.read_eq_ok_iff_spelledBy {tag : String} {value : Value} :
    read tag = .ok value ↔ value.SpelledBy tag :=
  read_eq_ok_iff.trans ofTag?_eq_some_iff_spelledBy

/-! ### What all tags have in common -/

/-- A tag that is read as a color is one of the spellings of that color, in some letter case. -/
theorem Color.exists_spelling_of_read {tag : String} {color : Color} (isColor : read tag = .ok color) :
    ∃ s ∈ color.spellings, EqualUpToCase tag s := by
  obtain ⟨s, spells, same⟩ := ofTag?_eq_some_iff.mp (read_eq_ok_iff.mp isColor)
  exact ⟨s, spells, Text.sameLetters_iff_equalUpToCase.mp same⟩

/-- A tag that is read as an action is one of the spellings of that action, in some letter case. -/
theorem Value.exists_spelling_of_read {tag : String} {act : Action} (isValue : read tag = .ok (.action act)) :
    ∃ s ∈ act.spellings, EqualUpToCase tag s := by
  obtain ⟨s, spells, same⟩ := Action.ofTag?_eq_some_iff.mp (ofTag?_eq_action_iff.mp (read_eq_ok_iff.mp isValue))
  exact ⟨s, spells, Text.sameLetters_iff_equalUpToCase.mp same⟩

/-- A tag that is read as a number is the numeral of that number. -/
theorem Value.eq_toString_of_read {tag : String} {rank : Fin 256} (isValue : read tag = .ok (.number rank)) :
    tag = toString rank.val :=
  ofTag?_eq_number_iff.mp (read_eq_ok_iff.mp isValue)

section CommonProperty

variable {p : String → Prop} (anyCase : ∀ {left right : String}, EqualUpToCase left right → p right → p left)
include anyCase

/-- What letter case does not matter to, and what is true of all spellings of colors, is true of all color tags. -/
theorem Color.of_read (spellings : ∀ color ∈ all, ∀ s ∈ color.spellings, p s) {tag : String} {color : Color}
    (isColor : read tag = .ok color) : p tag := by
  obtain ⟨s, spells, same⟩ := exists_spelling_of_read isColor
  exact anyCase same (spellings color (mem_all color) s spells)

/-- What letter case does not matter to, and what is true of all numerals and of all spellings of actions, is true
of all value tags. -/
theorem Value.of_read (numerals : ∀ rank : Fin 256, p (toString rank.val))
    (spellings : ∀ act ∈ Action.all, ∀ s ∈ act.spellings, p s) {tag : String} {value : Value}
    (isValue : read tag = .ok value) : p tag := by
  cases value with
  | number rank =>
    rw [eq_toString_of_read isValue]
    exact numerals rank
  | action act =>
    obtain ⟨s, spells, same⟩ := exists_spelling_of_read isValue
    exact anyCase same (spellings act (Action.mem_all act) s spells)

end CommonProperty

/-! ### The shape of tags -/

/-- What a tag looks like: some visible ASCII characters, 14 at most, and no dash in front. -/
structure Text.TagShaped (tag : String) : Prop where
  nonempty : tag.toList ≠ []
  visible : ∀ c ∈ tag.toList, 33 ≤ c.toNat ∧ c.toNat ≤ 126
  noDash : tag.toList.head? ≠ some '-'
  short : tag.length ≤ 14

instance : DecidablePred Text.TagShaped := fun tag =>
  decidable_of_iff (tag.toList ≠ [] ∧ (tag.toList.all fun c => decide (33 ≤ c.toNat ∧ c.toNat ≤ 126)) = true ∧
      tag.toList.head? ≠ some '-' ∧ tag.length ≤ 14)
    ⟨fun ⟨nonempty, visible, noDash, short⟩ => ⟨nonempty, by simpa using visible, noDash, short⟩,
      fun shaped => ⟨shaped.nonempty, by simpa using shaped.visible, shaped.noDash, shaped.short⟩⟩

/-- A text of this shape is a word, since no visible character is blank. -/
theorem Text.TagShaped.isWord {tag : String} (shaped : TagShaped tag) : IsWord tag where
  nonempty := shaped.nonempty
  noBlank := fun c member => isBlank_of_visible (shaped.visible c member)

/-- Letter case does not matter to the shape of a text. -/
theorem Text.EqualUpToCase.tagShaped {left right : String} (same : EqualUpToCase left right)
    (shaped : TagShaped right) : TagShaped left where
  nonempty := (same.isWord shaped.isWord).nonempty
  visible := same.forall_mem SameLetter.visible shaped.visible
  noDash := fun begins => shaped.noDash (same.symm.head?_eq begins (by decide))
  short := by
    have sameLength : left.toList.length = right.toList.length := List.Forall₂.length_eq same
    rw [String.length_toList, String.length_toList] at sameLength
    rw [sameLength]
    exact shaped.short

/-- The numeral of a number up to 255 has this shape. -/
theorem Text.tagShaped_toString (rank : Fin 256) : TagShaped (toString rank.val) where
  nonempty := (isWord_toString rank.val).nonempty
  visible := by
    intro c member
    have bounds : 48 ≤ c.toNat ∧ c.toNat ≤ 57 := Char.isDigit_iff_toNat.mp (isDigit_of_mem_toString member)
    omega
  noDash := by
    intro begins
    -- A number begins with a digit.
    have digit := isDigit_of_mem_toString (List.mem_of_mem_head? begins)
    contradiction
  short := by
    have threeDigits : (toString rank.val).length ≤ 3 :=
      length_toString_le (by decide) (Nat.lt_trans rank.isLt (by decide))
    omega

theorem Color.tagShaped_of_read {tag : String} {color : Color} (isColor : read tag = .ok color) :
    Text.TagShaped tag :=
  of_read EqualUpToCase.tagShaped (by decide) isColor

theorem Value.tagShaped_of_read {tag : String} {value : Value} (isValue : read tag = .ok value) :
    Text.TagShaped tag :=
  of_read EqualUpToCase.tagShaped Text.tagShaped_toString (by decide) isValue

/-- A tag of a color is a word. -/
theorem Color.isWord_of_read {tag : String} {color : Color} (isColor : read tag = .ok color) :
    IsWord tag :=
  (tagShaped_of_read isColor).isWord

/-- A tag of a value is a word. -/
theorem Value.isWord_of_read {tag : String} {value : Value} (isValue : read tag = .ok value) :
    IsWord tag :=
  (tagShaped_of_read isValue).isWord

theorem Color.SpelledBy.isWord {tag : String} {color : Color} (spelled : color.SpelledBy tag) : IsWord tag :=
  isWord_of_read (read_eq_ok_iff_spelledBy.mpr spelled)

theorem Value.SpelledBy.isWord {tag : String} {value : Value} (spelled : value.SpelledBy tag) : IsWord tag :=
  isWord_of_read (read_eq_ok_iff_spelledBy.mpr spelled)

/-- A tag of a color does not begin with a dash. -/
theorem Color.head?_ne_dash_of_read {tag : String} {color : Color} (isColor : read tag = .ok color) :
    tag.toList.head? ≠ some '-' :=
  (tagShaped_of_read isColor).noDash

/-- A tag of a value does not begin with a dash. -/
theorem Value.head?_ne_dash_of_read {tag : String} {value : Value} (isValue : read tag = .ok value) :
    tag.toList.head? ≠ some '-' :=
  (tagShaped_of_read isValue).noDash

/-! ### Tags in either case -/

variable {left right : String}

theorem Color.spelledBy_congr (same : EqualUpToCase left right) {color : Color} :
    color.SpelledBy left ↔ color.SpelledBy right := by
  rw [Text.equalUpToCase_iff] at same
  cases color <;> simp only [SpelledBy, Text.equalUpToCase_iff, same]

theorem Value.spelledBy_congr (same : EqualUpToCase left right) {value : Value} :
    value.SpelledBy left ↔ value.SpelledBy right := by
  rcases value with rank | act
  · -- A numeral has no letters, so it is spelled in one way only.
    have digits : ∀ c ∈ (toString rank.val).toList, c.isDigit = true :=
      fun _ => Text.isDigit_of_mem_toString
    constructor
    · intro spelled
      obtain rfl : left = toString rank.val := spelled
      exact same.symm.eq_of_digits digits
    · intro spelled
      obtain rfl : right = toString rank.val := spelled
      exact same.eq_of_digits digits
  · rw [Text.equalUpToCase_iff] at same
    cases act <;> simp only [SpelledBy, Text.equalUpToCase_iff, same]

/-- Letter case has no influence on which color a tag spells. -/
theorem Color.ofTag?_congr (same : EqualUpToCase left right) : ofTag? left = ofTag? right := by
  ext color
  rw [ofTag?_eq_some_iff_spelledBy, ofTag?_eq_some_iff_spelledBy, spelledBy_congr same]

/-- Letter case has no influence on which value a tag spells. -/
theorem Value.ofTag?_congr (same : EqualUpToCase left right) : ofTag? left = ofTag? right := by
  ext value
  rw [ofTag?_eq_some_iff_spelledBy, ofTag?_eq_some_iff_spelledBy, spelledBy_congr same]

/-! ### No value tag is a color tag -/

/-- A text is a color tag when it is read as some color. -/
theorem Color.isTag_iff {tag : String} : isTag tag = true ↔ ∃ color, read tag = .ok color := by
  rw [isTag, Option.isSome_iff_exists]
  exact exists_congr fun _ => read_eq_ok_iff.symm

theorem Color.isTag_of_read {tag : String} {color : Color} (isColor : read tag = .ok color) :
    isTag tag = true :=
  isTag_iff.mpr ⟨color, isColor⟩

/-- A text that is no color tag is refused for it. -/
theorem Color.read_of_not_isTag {tag : String} (notTag : isTag tag = false) :
    read tag = .error (.unknownColor tag) := by
  have noColor : ofTag? tag = none := by
    rwa [isTag, Option.isSome_eq_false_iff, Option.isNone_iff_eq_none] at notTag
  rw [read, noColor]

/-- A text is a color tag, or it is refused for it. -/
theorem Color.read_eq_ok_or (tag : String) :
    (∃ color, read tag = .ok color) ∨ read tag = .error (.unknownColor tag) := by
  unfold read
  cases ofTag? tag with
  | none => exact Or.inr rfl
  | some color => exact Or.inl ⟨color, rfl⟩

/-- A text is no color tag when it spells no color. -/
theorem Color.isTag_eq_false_iff {tag : String} :
    isTag tag = false ↔ ∀ color : Color, ¬ color.SpelledBy tag := by
  rw [← Bool.not_eq_true, isTag_iff, not_exists]
  exact forall_congr' fun _ => not_congr read_eq_ok_iff_spelledBy

/-- A text is a value tag, or it is refused for it. -/
theorem Value.read_eq_ok_or (tag : String) :
    (∃ value, read tag = .ok value) ∨ read tag = .error (.unknownValue tag) := by
  unfold read
  cases ofTag? tag with
  | none => exact Or.inr rfl
  | some value => exact Or.inl ⟨value, rfl⟩

/-- A text is refused as a value when it spells none. -/
theorem Value.read_eq_error_iff {tag : String} :
    read tag = .error (.unknownValue tag) ↔ ∀ value : Value, ¬ value.SpelledBy tag := by
  constructor
  · intro refused value spelled
    rw [read_eq_ok_iff_spelledBy.mpr spelled] at refused
    contradiction
  · intro noValue
    rcases read_eq_ok_or tag with ⟨value, isValue⟩ | refused
    · exact absurd (read_eq_ok_iff_spelledBy.mp isValue) (noValue value)
    · exact refused

/-- No value tag is a color tag. -/
theorem Color.isTag_of_read_value {tag : String} {value : Value} (isValue : Value.read tag = .ok value) :
    isTag tag = false := by
  -- A numeral is no color, and the tables of actions and of colors share no spelling.
  have anyCase : ∀ {left right : String}, EqualUpToCase left right →
      isTag right = false → isTag left = false := by
    intro left right same notTag
    rw [isTag, ofTag?_congr same]
    exact notTag
  have numerals : ∀ rank : Fin 256, isTag (toString rank.val) = false := by
    intro rank
    rw [isTag, ofTag?_of_digits fun _ => Text.isDigit_of_mem_toString]
    rfl
  have spellings : ∀ act ∈ Action.all, ∀ spelling ∈ act.spellings, isTag spelling = false := by decide
  exact Value.of_read anyCase numerals spellings isValue

theorem Value.ofTag?_of_isTag {tag : String} (isTag : Color.isTag tag = true) : ofTag? tag = none := by
  cases h : ofTag? tag with
  | none => rfl
  | some value =>
    have notTag := Color.isTag_of_read_value (read_eq_ok_iff.mpr h)
    exact absurd (notTag.symm.trans isTag) Bool.false_ne_true

/-! ### Both kinds of tags -/

/-- **Tags of colors and of values are apart, and both are well shaped.** No text is read as a color and as a value.
A text that is read as one of them has at least one character and at most 14, all of them visible ASCII characters and
none of them blank, the first of them no dash, and it is its only word. So a text with a character from outside ASCII,
whatever Unicode takes it for in the other case, is refused as a color and as a value. -/
theorem tags_apart_and_shaped (tag : String) :
    ¬ ((∃ color, Color.read tag = .ok color) ∧ ∃ value, Value.read tag = .ok value) ∧
    ((∃ color, Color.read tag = .ok color) ∨ (∃ value, Value.read tag = .ok value) →
      Text.TagShaped tag ∧ (∀ c ∈ tag.toList, Text.isBlank c = false) ∧ Text.words tag = [tag]) ∧
    ((∃ c ∈ tag.toList, 126 < c.toNat) →
      Color.read tag = .error (.unknownColor tag) ∧ Value.read tag = .error (.unknownValue tag)) := by
  have shapedOfRead :
      (∃ color, Color.read tag = .ok color) ∨ (∃ value, Value.read tag = .ok value) → Text.TagShaped tag := by
    rintro (⟨color, isColor⟩ | ⟨value, isValue⟩)
    · exact Color.tagShaped_of_read isColor
    · exact Value.tagShaped_of_read isValue
  refine ⟨?_, ?_, ?_⟩
  · rintro ⟨⟨color, isColor⟩, value, isValue⟩
    have notTag := Color.isTag_of_read_value isValue
    rw [Color.isTag_of_read isColor] at notTag
    contradiction
  · intro accepted
    have shaped := shapedOfRead accepted
    exact ⟨shaped, shaped.isWord.noBlank, Text.words_of_isWord shaped.isWord⟩
  · rintro ⟨c, member, outside⟩
    have notShaped : ¬ Text.TagShaped tag := by
      intro shaped
      have visible := shaped.visible c member
      omega
    exact ⟨(Color.read_eq_ok_or tag).resolve_left fun isColor => notShaped (shapedOfRead (Or.inl isColor)),
      (Value.read_eq_ok_or tag).resolve_left fun isValue => notShaped (shapedOfRead (Or.inr isValue))⟩

-- The long s is not read as the letter whose capital it has.
example : Value.read "ſkip" = .error (.unknownValue "ſkip") := by decide

end Uno
