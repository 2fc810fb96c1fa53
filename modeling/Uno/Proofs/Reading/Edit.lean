import Mathlib.Logic.Relation
import Uno.Proofs.Reading.Step

/-!
# Edits of a command line

Where one argument ends and the next begins is not part of what a command line says, and neither is the number or the
kind of the blanks between words. So there are ways to edit a command line without changing what is read: arguments
are joined with blanks between them or cut at blanks, blank arguments come and go, and blanks are added at the ends of
an argument or exchanged for others inside it. No edit touches a word. Conversely, these edits are all that is needed:
each of them can be undone, and together they take every argument apart into its words, so that they lead
from a command line to every other one with the same words.

## Main definitions

* `Edit.Rule` — what an edit does to the arguments that it is about
* `Edit` — a rule that is applied somewhere in a command line
* `Edits` — any number of edits

## Main results

* `Edits.symm` — edits can be undone
* `edits_iff_words_eq` — edits lead to the command lines with the same words
* `Reading.reading_of_edits` — edits change nothing that is read or noted
-/

namespace Uno

open Text (AllBlank Breaks IsWord)

/-- What an edit does to the arguments that it is about. -/
inductive Edit.Rule : List String → List String → Prop
  /-- Two arguments are joined, with blanks between them. -/
  | join {left gap right : String} (blank : AllBlank gap) (nonempty : gap ≠ "") :
    Rule [left, right] [left ++ gap ++ right]
  /-- An argument is cut at a run of blanks. -/
  | cut {left gap right : String} (blank : AllBlank gap) (nonempty : gap ≠ "") :
    Rule [left ++ gap ++ right] [left, right]
  /-- An argument without words is put in. -/
  | insert {gap : String} (blank : AllBlank gap) : Rule [] [gap]
  /-- An argument without words is taken out. -/
  | remove {gap : String} (blank : AllBlank gap) : Rule [gap] []
  /-- Blanks are put in front of an argument. -/
  | lead {gap text : String} (blank : AllBlank gap) : Rule [text] [gap ++ text]
  /-- Blanks are put behind an argument. -/
  | trail {gap text : String} (blank : AllBlank gap) : Rule [text] [text ++ gap]
  /-- A run of blanks in an argument is exchanged for another one. -/
  | respace {left gap gap' right : String} (blank : AllBlank gap) (nonempty : gap ≠ "")
    (blank' : AllBlank gap') (nonempty' : gap' ≠ "") :
    Rule [left ++ gap ++ right] [left ++ gap' ++ right]

/-- A rule is applied somewhere in a command line, and the other arguments stay as they are. -/
inductive Edit : List String → List String → Prop
  | anywhere {these those : List String} (before after : List String) (rule : Edit.Rule these those) :
    Edit (before ++ these ++ after) (before ++ those ++ after)

/-- Any number of edits, one after the other. -/
abbrev Edits : List String → List String → Prop :=
  Relation.ReflTransGen Edit

variable {these those arguments arguments' : List String}

/-! ### No edit touches a word -/

theorem Edit.Rule.words_eq (rule : Rule these those) :
    these.flatMap Text.words = those.flatMap Text.words := by
  cases rule with
  | join blank nonempty => simp [Text.words_append_gap_append blank nonempty]
  | cut blank nonempty => simp [Text.words_append_gap_append blank nonempty]
  | insert blank => simp [Text.words_eq_nil_iff.mpr blank]
  | remove blank => simp [Text.words_eq_nil_iff.mpr blank]
  | lead blank => simp [Text.words_append_of_allBlank blank]
  | trail blank => simp [Text.words_append_allBlank blank]
  | respace blank nonempty blank' nonempty' =>
    simp [Text.words_append_gap_append blank nonempty, Text.words_append_gap_append blank' nonempty']

theorem Edit.words_eq (edit : Edit arguments arguments') :
    arguments.flatMap Text.words = arguments'.flatMap Text.words := by
  obtain ⟨before, after, rule⟩ := edit
  simp only [List.flatMap_append, rule.words_eq]

theorem Edits.words_eq (edits : Edits arguments arguments') :
    arguments.flatMap Text.words = arguments'.flatMap Text.words := by
  induction edits with
  | refl => rfl
  | tail _ edit ih => exact ih.trans edit.words_eq

/-! ### Edits can be undone -/

theorem Edit.Rule.edits (rule : Rule these those) : Edits these those := by
  have alone := Edit.anywhere [] [] rule
  rw [List.nil_append, List.append_nil, List.nil_append, List.append_nil] at alone
  exact .single alone

/-- Edits can be made with other arguments around. -/
theorem Edits.around (edits : Edits these those) (before after : List String) :
    Edits (before ++ these ++ after) (before ++ those ++ after) := by
  induction edits with
  | refl => exact .refl
  | tail _ edit ih =>
    obtain ⟨before', after', rule⟩ := edit
    have wider := Edit.anywhere (before ++ before') (after' ++ after) rule
    refine ih.tail ?_
    simpa only [List.append_assoc] using wider

/-- Blanks in front of an argument can be taken away: the argument is cut behind them. -/
theorem edits_dropLead {gap : String} (blank : AllBlank gap) (text : String) : Edits [gap ++ text] [text] := by
  by_cases empty : gap = ""
  · rw [empty, String.empty_append]
  · have cut : Edits ["" ++ gap ++ text] ["", text] := (Edit.Rule.cut blank empty).edits
    have removed : Edits ["", text] [text] :=
      (Edit.Rule.remove Text.allBlank_empty).edits.around [] [text]
    rw [String.empty_append] at cut
    exact cut.trans removed

/-- Blanks behind an argument can be taken away: the argument is cut in front of them. -/
theorem edits_dropTrail {gap : String} (blank : AllBlank gap) (text : String) : Edits [text ++ gap] [text] := by
  by_cases empty : gap = ""
  · rw [empty, String.append_empty]
  · have cut : Edits [text ++ gap ++ ""] [text, ""] := (Edit.Rule.cut blank empty).edits
    have removed : Edits [text, ""] [text] :=
      (Edit.Rule.remove Text.allBlank_empty).edits.around [text] []
    rw [String.append_empty] at cut
    exact cut.trans removed

theorem Edit.Rule.symm (rule : Rule these those) : Edits those these := by
  cases rule with
  | join blank nonempty => exact (cut blank nonempty).edits
  | cut blank nonempty => exact (join blank nonempty).edits
  | insert blank => exact (remove blank).edits
  | remove blank => exact (insert blank).edits
  | lead blank => exact edits_dropLead blank _
  | trail blank => exact edits_dropTrail blank _
  | respace blank nonempty blank' nonempty' => exact (respace blank' nonempty' blank nonempty).edits

/-- Edits can be undone. -/
theorem Edits.symm (edits : Edits arguments arguments') : Edits arguments' arguments := by
  induction edits with
  | refl => exact .refl
  | tail _ edit ih =>
    obtain ⟨before, after, rule⟩ := edit
    exact (rule.symm.around before after).trans ih

/-! ### Edits reach every command line with the same words -/

/-- An argument can be taken apart into its words. -/
theorem edits_words (text : String) : Edits [text] (Text.words text) := by
  induction h : Text.words text generalizing text with
  | nil => exact (Edit.Rule.remove (Text.words_eq_nil_iff.mp h)).edits
  | cons first others ih =>
    obtain ⟨gap, rest, rfl, blank, -, breaks, sameWords⟩ := Text.words_eq_cons_iff.mp h
    rw [String.append_assoc]
    refine (edits_dropLead blank _).trans ?_
    cases others with
    | nil => exact edits_dropTrail (Text.words_eq_nil_iff.mp sameWords) first
    | cons second others =>
      -- The blanks between the first word and the second are where the argument is cut.
      obtain ⟨gap', rest', rfl, blank', isSecond, -, -⟩ := Text.words_eq_cons_iff.mp sameWords
      have nonempty : gap' ≠ "" := (Text.breaks_append_iff blank' isSecond).mp breaks
      have cut : Edits [first ++ gap' ++ (second ++ rest')] [first, second ++ rest'] :=
        (Edit.Rule.cut blank' nonempty).edits
      rw [String.append_assoc, Text.words_append_of_allBlank blank'] at sameWords
      have later := (ih _ sameWords).around [first] []
      rw [List.append_nil, List.append_nil] at later
      have whole : first ++ (gap' ++ second ++ rest') = first ++ gap' ++ (second ++ rest') := by
        simp only [String.append_assoc]
      rw [whole]
      exact cut.trans later

/-- A command line can be taken apart into its words. -/
theorem edits_flatMap_words (arguments : List String) : Edits arguments (arguments.flatMap Text.words) := by
  induction arguments with
  | nil => exact .refl
  | cons argument arguments ih =>
    have first := (edits_words argument).around [] arguments
    have later := ih.around (Text.words argument) []
    rw [List.append_nil, List.append_nil] at later
    exact first.trans later

/-- Edits lead from a command line to those with the same words, and to no other. -/
theorem edits_iff_words_eq :
    Edits arguments arguments' ↔ arguments.flatMap Text.words = arguments'.flatMap Text.words := by
  constructor
  · intro edits
    exact edits.words_eq
  · intro sameWords
    have apart := edits_flatMap_words arguments
    rw [sameWords] at apart
    exact apart.trans (edits_flatMap_words arguments').symm

/-! ### Edits and readings -/

namespace Reading

/-- **Edits change nothing.** However a command line is edited, by any number of edits in any order, the outcome of
reading it is the same, down to the entry and the reason of a failure, and so are the events. -/
theorem reading_of_edits (edits : Edits arguments arguments') :
    (ofArguments arguments').lines = (ofArguments arguments).lines ∧
      (ofArguments arguments').events = (ofArguments arguments).events := by
  have same : ofArguments arguments' = ofArguments arguments := by
    rw [ofArguments_eq_ofWords, ofArguments_eq_ofWords, edits.words_eq]
  rw [same]
  exact ⟨rfl, rfl⟩

/-- A line that cannot be read, with two arguments joined, their blank exchanged for others, and a blank argument put
in front. -/
theorem reading_of_three_edits :
    (ofArguments ["\n", "RED\t 7", "8 9"]).lines = (ofArguments ["RED", "7", "8 9"]).lines ∧
      (ofArguments ["\n", "RED\t 7", "8 9"]).events = (ofArguments ["RED", "7", "8 9"]).events := by
  have joined : Edit ["RED", "7", "8 9"] ["RED 7", "8 9"] :=
    .anywhere [] ["8 9"] (@Edit.Rule.join "RED" " " "7" (by decide) (by decide))
  have respaced : Edit ["RED 7", "8 9"] ["RED\t 7", "8 9"] :=
    .anywhere [] ["8 9"]
      (@Edit.Rule.respace "RED" " " "\t " "7" (by decide) (by decide) (by decide) (by decide))
  have inserted : Edit ["RED\t 7", "8 9"] ["\n", "RED\t 7", "8 9"] :=
    .anywhere [] ["RED\t 7", "8 9"] (@Edit.Rule.insert "\n" (by decide))
  exact reading_of_edits (((Relation.ReflTransGen.single joined).tail respaced).tail inserted)

end Reading

end Uno
