import Mathlib.Data.List.Basic
import Uno.Event
import Uno.Proofs.Text.LetterCase

/-!
# Settings and how far they reach

A verbosity keeps the most severe levels up to its own. How many it keeps orders the verbosities, from `off`, which
keeps none, to the one that keeps traces. What is kept of any events under a verbosity is, in the same order, among
what is kept under one that reaches further. A setting asks for a verbosity by its name, in any letter case, and a
setting that is absent asks for warnings and errors.

## Main definitions

* `Verbosity.reach` — the number of levels that a verbosity keeps
* `Verbosity.AskedBy` — the settings that ask for a verbosity

## Main results

* `Verbosity.ofSetting_of_askedBy` — a setting leads to the verbosity that it asks for
* `Verbosity.log_sublist` — who reaches further sees more
* `Verbosity.log_eq_nil` — warnings and errors do not occur
-/

namespace Uno

open Text (EqualUpToCase)

namespace Verbosity

/-- The number of levels that a verbosity keeps, from the most severe one. -/
def reach : Verbosity → Nat
  | .off => 0
  | .upTo level => level.rank + 1

/-- The settings that ask for a verbosity: its name in any letter case, or no setting for warnings and errors. -/
inductive AskedBy : Verbosity → Option String → Prop
  | absent : AskedBy (.upTo .warn) none
  | off {name : String} (named : EqualUpToCase name "OFF") : AskedBy .off (some name)
  | upTo {name : String} {level : Level} (named : EqualUpToCase name level.text) : AskedBy (.upTo level) (some name)

variable {verbosity further : Verbosity} {level : Level} {setting : Option String}

theorem keeps_iff : verbosity.keeps level = true ↔ level.rank < verbosity.reach := by
  cases verbosity with
  | off => simp [keeps, reach]
  | upTo bound =>
    rw [keeps, decide_eq_true_iff]
    exact Nat.lt_succ_iff.symm

/-- A setting leads to the verbosity that it asks for. -/
theorem ofSetting_of_askedBy (asked : verbosity.AskedBy setting) : ofSetting setting = verbosity := by
  cases asked with
  | absent => rfl
  | off named =>
    rw [ofSetting, ofName?, if_pos (Text.sameLetters_iff_equalUpToCase.mpr named)]
    rfl
  | @upTo name level named =>
    -- The name is compared by its capitals, which are those of the level.
    have capitals : Text.capitals name = Text.capitals level.text := Text.equalUpToCase_iff.mp named
    simp only [ofSetting, ofName?, Text.sameLetters, capitals]
    cases level <;> rfl

variable [Text.Repertoire]

theorem log_append (earlier later : List Event) :
    verbosity.log (earlier ++ later) = verbosity.log earlier ++ verbosity.log later := by
  rw [log, List.filter_append, List.map_append]
  rfl

/-- Who reaches further sees more. -/
theorem log_sublist (less : verbosity.reach ≤ further.reach) (events : List Event) :
    (verbosity.log events).Sublist (further.log events) := by
  apply List.Sublist.map
  apply List.monotone_filter_right
  intro event kept
  rw [keeps_iff] at kept ⊢
  exact Nat.lt_of_lt_of_le kept less

end Verbosity

/-- No event is a warning or an error. -/
theorem Event.rank_warn_lt (event : Event) : Level.warn.rank < event.level.rank := by
  cases event <;> simp [level, Level.rank]

/-- Warnings and errors do not occur, so who reaches no further sees nothing. -/
theorem Verbosity.log_eq_nil [Text.Repertoire] {verbosity : Verbosity} (less : verbosity.reach ≤ (upTo .warn).reach)
    (events : List Event) : verbosity.log events = [] := by
  rw [log, List.map_eq_nil_iff, List.filter_eq_nil_iff]
  intro event _ kept
  rw [keeps_iff] at kept
  exact absurd (Nat.lt_succ_iff.mp (Nat.lt_of_lt_of_le kept less)) (Nat.not_le.mpr event.rank_warn_lt)

end Uno
