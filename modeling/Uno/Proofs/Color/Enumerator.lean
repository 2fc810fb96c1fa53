import Mathlib.Data.List.Infix
import Mathlib.Logic.Function.Iterate
import Uno.Proofs.Color.Walk

/-!
# The order of an enumeration from both ends

An enumeration takes colors from the front and from the back, in any mixture and with jumps of any size. Lay out what it
has taken in one row: the colors from the front in the order in which they came, then the colors still to come, and then
the colors from the back, the last of them first. As long as the enumeration does not begin anew, this row has the
colors of the beginning in their order, with gaps only where a step was asked to skip. Whatever can be said about the
order of the colors that come out, and about colors that come out twice, is read off the row.

Nothing is known of an enumeration but its contract, and the contract says what a single question does. What is shown
here of sequences of questions holds of every enumeration that keeps it.

## Main definitions

* `Color.Precedes` — the order of the colors
* `Color.InOrder` — colors from the front, colors still to come and colors from the back, in this order
* `Enumerator.after`, `Enumerator.reached` — the state after a sequence of steps
* `Enumerator.takenFrom` — the colors that a sequence of steps takes from one end
* `Enumerator.row` — these colors and those still to come, in one row
* `Enumerator.Alike` — steps with one answer that leave the same colors

## Main results

* `Enumerator.Contract.step_cases`, `Enumerator.Contract.exists_eq_row` — what a step takes, and what it leaves
* `Enumerator.exists_last` — the last of several single steps
* `Enumerator.Contract.exists_alike_nth`, `Enumerator.Contract.exists_alike_nthBack` — jumps as single steps
* `Enumerator.exists_row` — what a step keeps of the row is kept by a sequence of steps
* `Enumerator.Contract.exists_ahead` — the colors still to come
* `Enumerator.Contract.exists_row_sublist`, `Enumerator.Contract.exists_row_eq` — the row
* `Enumerator.Contract.ahead_nil_after` — an enumeration that is used up stays so
* `Enumerator.order_from_both_ends` — enumerations of any length
-/

namespace Uno.Color

/-! ### The order of the colors -/

/-- A color comes before another one in the order of the colors. -/
def Precedes (left right : Color) : Prop :=
  all.idxOf left < all.idxOf right

instance : DecidableRel Precedes := fun left right =>
  inferInstanceAs (Decidable (all.idxOf left < all.idxOf right))

theorem pairwise_precedes_all : all.Pairwise Precedes := by
  decide

theorem nodup_all : all.Nodup := by
  decide

/-- Colors that have been taken from the front and from the back, and the colors still to come, are in order. -/
structure InOrder (front rest back : List Color) : Prop where
  /-- From the front, the earlier color comes first. -/
  from_front : front.Pairwise Precedes
  /-- From the back, the later color comes first. -/
  from_back : back.Pairwise fun earlier later => Precedes later earlier
  /-- What the front has given comes before what is still to come. -/
  front_rest : ∀ c ∈ front, ∀ d ∈ rest, Precedes c d
  /-- What is still to come comes before what the back has given. -/
  rest_back : ∀ c ∈ rest, ∀ d ∈ back, Precedes c d
  /-- What the front has given comes before what the back has given. -/
  front_back : ∀ c ∈ front, ∀ d ∈ back, Precedes c d
  /-- No color has been given twice. -/
  nodup : (front ++ back).Nodup

/-- The order of what is taken is the order of the row. -/
theorem inOrder_of_sublist {front rest back : List Color} (inAll : (front ++ rest ++ back.reverse).Sublist all) :
    InOrder front rest back := by
  obtain ⟨ahead, behind, before⟩ := List.pairwise_append.mp (pairwise_precedes_all.sublist inAll)
  obtain ⟨inFront, -, front_rest⟩ := List.pairwise_append.mp ahead
  have given : (front ++ back.reverse).Sublist all :=
    ((List.sublist_append_left front rest).append (List.Sublist.refl _)).trans inAll
  exact {
    from_front := inFront
    from_back := List.pairwise_reverse.mp behind
    front_rest := front_rest
    rest_back := fun c still d given => before c (List.mem_append_right _ still) d (List.mem_reverse.mpr given)
    front_back := fun c given d given' => before c (List.mem_append_left _ given) d (List.mem_reverse.mpr given')
    nodup := ((List.reverse_perm back).append_left front).nodup_iff.mp (nodup_all.sublist given) }

namespace Enumerator

/-- An end of the colors still to come. -/
inductive Side
  | front
  | back
  deriving DecidableEq, Repr

variable {State Count : Type}

/-- The end from which a step takes a color, if it takes one. -/
def Step.side? : Step Count → Option Side
  | .next | .nth _ => some .front
  | .nextBack | .nthBack _ => some .back
  | .length | .restart => none

/-- The color that an answer hands out. -/
def Answer.color? : Answer → Option Color
  | .taken color => color
  | .left _ | .done => none

/-- The number of colors that a step is asked to skip. -/
def skips (enum : Enumerator State Count) : Step Count → Nat
  | .nth count | .nthBack count => enum.number count
  | .next | .nextBack | .length | .restart => 0

/-- The state after a sequence of steps. -/
def after (enum : Enumerator State Count) (state : State) (steps : List (Step Count)) : State :=
  ((enum.run state steps).map Prod.snd).getLastD state

/-- The state that a new enumeration reaches by a sequence of steps. -/
def reached (enum : Enumerator State Count) (steps : List (Step Count)) : State :=
  enum.after enum.start steps

/-- The colors that a sequence of steps takes from one end, in the order in which they are taken. -/
def takenFrom (enum : Enumerator State Count) (state : State) (side : Side) (steps : List (Step Count)) : List Color :=
  (steps.zip (enum.run state steps)).filterMap fun (step, answer, _) =>
    if step.side? = some side then answer.color? else none

/-- The colors that a sequence of steps has not skipped, in one row, when `rest` are those still to come after it: those
taken from the front, those still to come, and those taken from the back, the last of them first. -/
def row (enum : Enumerator State Count) (state : State) (steps : List (Step Count)) (rest : List Color) : List Color :=
  enum.takenFrom state .front steps ++ rest ++ (enum.takenFrom state .back steps).reverse

/-- Two steps have one answer, and the same colors come after them. -/
def Alike (enum : Enumerator State Count) (outcome outcome' : Answer × State) : Prop :=
  outcome.1 = outcome'.1 ∧ ∀ rest, enum.Ahead outcome.2 rest ↔ enum.Ahead outcome'.2 rest

variable {enum : Enumerator State Count} {state : State} {rest : List Color} {step : Step Count}
  {steps : List (Step Count)}

/-! ### Sequences of steps -/

@[simp] theorem after_nil (enum : Enumerator State Count) (state : State) : enum.after state [] = state := rfl

@[simp] theorem after_cons (enum : Enumerator State Count) (state : State) (step : Step Count)
    (steps : List (Step Count)) : enum.after state (step :: steps) = enum.after (enum.step state step).2 steps := by
  rw [after, run, List.map_cons, List.getLastD_cons]
  rfl

theorem after_append (enum : Enumerator State Count) (state : State) (steps more : List (Step Count)) :
    enum.after state (steps ++ more) = enum.after (enum.after state steps) more := by
  induction steps generalizing state with
  | nil => rfl
  | cons step steps ih => rw [List.cons_append, after_cons, after_cons, ih]

theorem reached_append (enum : Enumerator State Count) (steps more : List (Step Count)) :
    enum.reached (steps ++ more) = enum.after (enum.reached steps) more :=
  after_append enum enum.start steps more

/-- What holds of a state and is kept by every step holds in the end. -/
theorem after_induction {P : State → Prop} (kept : ∀ step ∈ steps, ∀ state, P state → P (enum.step state step).2)
    (begins : P state) : P (enum.after state steps) := by
  induction steps generalizing state with
  | nil => exact begins
  | cons step steps ih =>
    rw [after_cons]
    exact ih (fun later member => kept later (List.mem_cons_of_mem step member))
      (kept step List.mem_cons_self state begins)

theorem takenFrom_cons (enum : Enumerator State Count) (state : State) (side : Side) (step : Step Count)
    (steps : List (Step Count)) :
    enum.takenFrom state side (step :: steps) =
      enum.takenFrom state side [step] ++ enum.takenFrom (enum.step state step).2 side steps := by
  simp only [takenFrom, run, List.zip_cons_cons, ← List.filterMap_append]
  rfl

theorem takenFrom_singleton (enum : Enumerator State Count) (state : State) (side : Side) (step : Step Count) :
    enum.takenFrom state side [step] =
      if step.side? = some side then (enum.step state step).1.color?.toList else [] := by
  simp only [takenFrom, run, List.zip_cons_cons, List.filterMap_cons]
  split <;> split <;> simp_all

/-- The row of a sequence of steps is that of the later steps, with the color that the first step takes at its end. -/
theorem row_cons (enum : Enumerator State Count) (state : State) (step : Step Count) (steps : List (Step Count))
    (rest : List Color) :
    enum.row state (step :: steps) rest = enum.row state [step] (enum.row (enum.step state step).2 steps rest) := by
  rw [row, takenFrom_cons, takenFrom_cons enum state .back, List.reverse_append]
  simp only [row, List.append_assoc]

@[simp] theorem row_nil (enum : Enumerator State Count) (state : State) (rest : List Color) :
    enum.row state [] rest = rest := by
  simp [row, takenFrom]

/-! ### What the contract says of a step -/

/-- The color at a place, between those in front of it and those behind it. -/
theorem eq_take_append_getElem? (colors : List Color) (n : Nat) :
    colors = colors.take n ++ colors[n]?.toList ++ colors.drop (n + 1) := by
  rw [← List.take_add_one, List.take_append_drop]

namespace Contract

variable (contract : enum.Contract)

include contract

/-- The front takes the first color, and leaves the others. -/
theorem next_eq (ahead : enum.Ahead state rest) :
    (enum.next state).1 = rest.head? ∧ enum.Ahead (enum.next state).2 rest.tail := by
  cases ahead with
  | spent nothing => exact ⟨nothing, contract.next (.spent nothing)⟩
  | more taken later => exact ⟨taken, later⟩

/-- A step goes to the front or to the back and takes the color behind those that it skips, or it counts. -/
theorem step_cases (ahead : enum.Ahead state rest) (notRestart : step ≠ .restart) :
    (step.side? = some .front ∧ (enum.step state step).1 = .taken rest[enum.skips step]? ∧
      enum.Ahead (enum.step state step).2 (rest.drop (enum.skips step + 1))) ∨
    (step.side? = some .back ∧ (enum.step state step).1 = .taken rest.reverse[enum.skips step]? ∧
      enum.Ahead (enum.step state step).2 (rest.reverse.drop (enum.skips step + 1)).reverse) ∨
    (step = .length ∧ enum.step state step = (.left rest.length, state)) := by
  cases step with
  | next =>
    obtain ⟨first, others⟩ := contract.next_eq ahead
    refine Or.inl ⟨rfl, ?_, ?_⟩
    · rw [Enumerator.step, first, List.head?_eq_getElem?]
      rfl
    · rw [skips, List.drop_one]
      exact others
  | nextBack =>
    obtain ⟨last, others⟩ := contract.nextBack ahead
    refine Or.inr (Or.inl ⟨rfl, ?_, ?_⟩)
    · rw [Enumerator.step, last, ← List.head?_reverse, List.head?_eq_getElem?]
      rfl
    · rw [skips, List.drop_one, List.tail_reverse, List.reverse_reverse]
      exact others
  | nth count =>
    obtain ⟨taken, left⟩ := contract.nth ahead count
    exact Or.inl ⟨rfl, congrArg Answer.taken taken, left⟩
  | nthBack count =>
    obtain ⟨taken, left⟩ := contract.nthBack ahead count
    exact Or.inr (Or.inl ⟨rfl, congrArg Answer.taken taken, left⟩)
  | length => exact Or.inr (Or.inr ⟨rfl, by rw [Enumerator.step, contract.length ahead]⟩)
  | restart => contradiction

/-- A step leaves the colors as they are, apart from those that it is asked to skip: these are missing at the end from
which it takes a color. -/
theorem exists_eq_row (ahead : enum.Ahead state rest) (notRestart : step ≠ .restart) :
    ∃ left before behind, enum.Ahead (enum.step state step).2 left ∧
      rest = before ++ enum.row state [step] left ++ behind ∧ before.length + behind.length ≤ enum.skips step := by
  obtain ⟨side, taken, left⟩ | ⟨side, taken, left⟩ | ⟨rfl, counted⟩ := contract.step_cases ahead notRestart
  · refine ⟨_, rest.take (enum.skips step), [], left, ?_, List.length_take_le _ _⟩
    simpa [row, takenFrom_singleton, side, taken, Answer.color?] using eq_take_append_getElem? rest (enum.skips step)
  · refine ⟨_, [], (rest.reverse.take (enum.skips step)).reverse, left, ?_, ?_⟩
    · have reversed := congrArg List.reverse (eq_take_append_getElem? rest.reverse (enum.skips step))
      simpa [row, takenFrom_singleton, side, taken, Answer.color?] using reversed
    · rw [List.length_nil, Nat.zero_add, List.length_reverse]
      exact List.length_take_le _ _
  · rw [counted]
    exact ⟨rest, [], [], ahead, by simp [row, takenFrom_singleton, Step.side?], by simp⟩

/-- A step that takes nothing uses up the colors. -/
theorem ahead_nil_of_taken_none (ahead : enum.Ahead state rest) (nothing : (enum.step state step).1 = .taken none) :
    enum.Ahead (enum.step state step).2 [] := by
  have notRestart : step ≠ .restart := by
    rintro rfl
    contradiction
  obtain ⟨-, taken, left⟩ | ⟨-, taken, left⟩ | ⟨-, counted⟩ := contract.step_cases ahead notRestart
  · rw [taken, Answer.taken.injEq, List.getElem?_eq_none_iff] at nothing
    rwa [List.drop_eq_nil_of_le (Nat.le_succ_of_le nothing)] at left
  · rw [taken, Answer.taken.injEq, List.getElem?_eq_none_iff] at nothing
    rwa [List.drop_eq_nil_of_le (Nat.le_succ_of_le nothing)] at left
  · rw [counted] at nothing
    contradiction

end Contract

/-! ### Jumps -/

/-- Steps with one answer that leave the same colors ahead are alike. -/
theorem alike_of_ahead {outcome outcome' : Answer × State} (same : outcome.1 = outcome'.1)
    (ahead : enum.Ahead outcome.2 rest) (ahead' : enum.Ahead outcome'.2 rest) : enum.Alike outcome outcome' := by
  refine ⟨same, fun rest' => ?_⟩
  constructor
  · intro isAhead
    exact ahead.unique isAhead ▸ ahead'
  · intro isAhead
    exact ahead'.unique isAhead ▸ ahead

/-- If a step is known by what it answers and leaves when given colors are ahead, so is the last of several steps of
this kind. -/
theorem exists_last {single : Step Count} {answer : List Color → Answer} {leave : List Color → List Color}
    (each : ∀ {state rest}, enum.Ahead state rest →
      (enum.step state single).1 = answer rest ∧ enum.Ahead (enum.step state single).2 (leave rest))
    (ahead : enum.Ahead state rest) (n : Nat) :
    ∃ last, (enum.run state (List.replicate (n + 1) single)).getLast? = some last ∧
      last.1 = answer (leave^[n] rest) ∧ enum.Ahead last.2 (leave^[n + 1] rest) := by
  induction n generalizing state rest with
  | zero => exact ⟨enum.step state single, rfl, each ahead⟩
  | succ n ih =>
    obtain ⟨last, isLast, outcome⟩ := ih (each ahead).2
    refine ⟨last, ?_, outcome⟩
    rw [List.replicate_succ, run] at isLast ⊢
    -- There is a further step behind the first one, so the last of them is the last of the others.
    rw [List.replicate_succ, run, List.getLast?_cons_cons]
    exact isLast

theorem dropLast_iterate (colors : List Color) (n : Nat) :
    List.dropLast^[n] colors = (colors.reverse.drop n).reverse := by
  induction n generalizing colors with
  | zero => simp
  | succ n ih => rw [Function.iterate_succ_apply, ih, ← List.tail_reverse, List.drop_tail]

namespace Contract

variable (contract : enum.Contract)

include contract

/-- A jump is a sequence of single steps. -/
theorem exists_alike_nth (ahead : enum.Ahead state rest) (count : Count) :
    ∃ last, (enum.run state (List.replicate (enum.number count + 1) .next)).getLast? = some last ∧
      enum.Alike last (enum.step state (.nth count)) := by
  have single : ∀ {state rest}, enum.Ahead state rest →
      (enum.step state .next).1 = .taken rest.head? ∧ enum.Ahead (enum.step state .next).2 rest.tail :=
    fun ahead => (contract.next_eq ahead).imp_left (congrArg Answer.taken)
  obtain ⟨last, isLast, answer, left⟩ := exists_last single ahead (enum.number count)
  obtain ⟨taken, left'⟩ := contract.nth ahead count
  rw [List.tail_iterate] at answer left
  refine ⟨last, isLast, alike_of_ahead ?_ left left'⟩
  rw [answer, Enumerator.step, taken, List.head?_drop]

/-- A jump from the back is a sequence of single steps from the back. -/
theorem exists_alike_nthBack (ahead : enum.Ahead state rest) (count : Count) :
    ∃ last, (enum.run state (List.replicate (enum.number count + 1) .nextBack)).getLast? = some last ∧
      enum.Alike last (enum.step state (.nthBack count)) := by
  have single : ∀ {state rest}, enum.Ahead state rest →
      (enum.step state .nextBack).1 = .taken rest.getLast? ∧ enum.Ahead (enum.step state .nextBack).2 rest.dropLast :=
    fun ahead => (contract.nextBack ahead).imp_left (congrArg Answer.taken)
  obtain ⟨last, isLast, answer, left⟩ := exists_last single ahead (enum.number count)
  obtain ⟨taken, left'⟩ := contract.nthBack ahead count
  rw [dropLast_iterate] at answer left
  refine ⟨last, isLast, alike_of_ahead ?_ left left'⟩
  rw [answer, Enumerator.step, taken, List.getLast?_reverse, List.head?_drop]

end Contract

/-! ### Steps without a new beginning -/

/-- A relation between rows of colors that holds before and after every step holds before and after a sequence of
steps, if it can be chained and does not care about further colors at the two ends. -/
theorem exists_row {R : List Color → List Color → Prop} (refl : ∀ colors, R colors colors)
    (trans : ∀ {first second third}, R first second → R second third → R first third)
    (frame : ∀ {inner outer} front back, R inner outer → R (front ++ inner ++ back) (front ++ outer ++ back))
    (each : ∀ step ∈ steps, ∀ {state rest}, enum.Ahead state rest →
      ∃ left, enum.Ahead (enum.step state step).2 left ∧ R (enum.row state [step] left) rest)
    (ahead : enum.Ahead state rest) :
    ∃ left, enum.Ahead (enum.after state steps) left ∧ R (enum.row state steps left) rest := by
  induction steps generalizing state rest with
  | nil =>
    refine ⟨rest, ahead, ?_⟩
    rw [row_nil]
    exact refl rest
  | cons step steps ih =>
    obtain ⟨between, aheadBetween, first⟩ := each step List.mem_cons_self ahead
    obtain ⟨left, aheadLeft, others⟩ :=
      ih (fun later member => each later (List.mem_cons_of_mem step member)) aheadBetween
    refine ⟨left, ?_, ?_⟩
    · rw [after_cons]
      exact aheadLeft
    · rw [row_cons]
      exact trans (frame _ _ others) first

namespace Contract

variable (contract : enum.Contract)

include contract

/-- The row of an enumeration has the colors of its beginning, some of them left out, in their order. -/
theorem exists_row_sublist (ahead : enum.Ahead state rest) (noRestart : .restart ∉ steps) :
    ∃ left, enum.Ahead (enum.after state steps) left ∧ (enum.row state steps left).Sublist rest := by
  refine exists_row List.Sublist.refl List.Sublist.trans ?_ ?_ ahead
  · intro inner outer front back inside
    exact ((List.Sublist.refl front).append inside).append (List.Sublist.refl back)
  · intro step member state rest ahead
    obtain ⟨left, before, behind, isAhead, whole, -⟩ :=
      contract.exists_eq_row ahead (ne_of_mem_of_not_mem member noRestart)
    refine ⟨left, isAhead, ?_⟩
    rw [whole]
    exact (List.sublist_append_right before _).trans (List.sublist_append_left _ behind)

/-- If no step is asked to skip a color, the row of an enumeration has all colors of its beginning. -/
theorem exists_row_eq (ahead : enum.Ahead state rest) (noRestart : .restart ∉ steps)
    (noSkip : ∀ step ∈ steps, enum.skips step = 0) :
    ∃ left, enum.Ahead (enum.after state steps) left ∧ enum.row state steps left = rest := by
  refine exists_row (fun _ => rfl) Eq.trans ?_ ?_ ahead
  · intro inner outer front back same
    rw [same]
  · intro step member state rest ahead
    obtain ⟨left, before, behind, isAhead, whole, skipped⟩ :=
      contract.exists_eq_row ahead (ne_of_mem_of_not_mem member noRestart)
    rw [noSkip step member] at skipped
    have noneBefore : before = [] := List.eq_nil_of_length_eq_zero (by omega)
    have noneBehind : behind = [] := List.eq_nil_of_length_eq_zero (by omega)
    refine ⟨left, isAhead, ?_⟩
    rw [whole, noneBefore, noneBehind, List.nil_append, List.append_nil]

/-- When the colors are used up, a step that goes to one of the ends takes nothing. -/
theorem step_of_ahead_nil (spent : enum.Ahead state []) (notRestart : step ≠ .restart) :
    (step.side? ≠ none → (enum.step state step).1 = .taken none) ∧ enum.Ahead (enum.step state step).2 [] := by
  obtain ⟨-, taken, left⟩ | ⟨-, taken, left⟩ | ⟨rfl, counted⟩ := contract.step_cases spent notRestart
  · exact ⟨fun _ => by simpa using taken, by simpa using left⟩
  · exact ⟨fun _ => by simpa using taken, by simpa using left⟩
  · rw [counted]
    exact ⟨fun takes => absurd rfl takes, spent⟩

/-- An enumeration that is used up stays so. -/
theorem ahead_nil_after (spent : enum.Ahead state []) (noRestart : .restart ∉ steps) :
    enum.Ahead (enum.after state steps) [] := by
  refine after_induction (P := fun state => enum.Ahead state []) ?_ spent
  intro step member state spent
  exact (contract.step_of_ahead_nil spent (ne_of_mem_of_not_mem member noRestart)).2

/-! ### From the beginning -/

/-- After any steps there are colors still to come, perhaps none, and they are a segment of all colors. -/
theorem exists_ahead (steps : List (Step Count)) :
    ∃ rest, enum.Ahead (enum.reached steps) rest ∧ rest <:+: all := by
  refine after_induction (P := fun state => ∃ rest, enum.Ahead state rest ∧ rest <:+: all) ?_
    ⟨all, contract.start, List.infix_rfl⟩
  rintro step - state ⟨rest, ahead, segment⟩
  by_cases restarts : step = .restart
  · rw [restarts]
    exact ⟨all, contract.start, List.infix_rfl⟩
  · obtain ⟨left, before, behind, isAhead, whole, -⟩ := contract.exists_eq_row ahead restarts
    have inRow : left <:+: enum.row state [step] left := List.infix_append _ _ _
    have inRest : enum.row state [step] left <:+: rest := by
      rw [whole]
      exact List.infix_append _ _ _
    exact ⟨left, isAhead, (inRow.trans inRest).trans segment⟩

end Contract

/-- **The order of the colors from both ends.** Of any enumeration that keeps its contract, the following holds. At any
time the colors still to come are a segment of all colors, and counting them gives their number and changes nothing. A
jump has the outcome of the last of so many single steps from the same end, one more than it skips. Between two new
beginnings the colors come out in their order from the front and in reverse from the back, those from the front before
those still to come and these before those from the back, and no color comes out twice; if no step is asked to skip a
color, none is missing. A new beginning has all colors before it. A step that has found no color to take is followed by
no other that finds one or counts one, up to the next new beginning. -/
theorem order_from_both_ends (contract : enum.Contract) :
    (∀ steps, ∃ rest, enum.Ahead (enum.reached steps) rest ∧ rest <:+: all ∧
      enum.step (enum.reached steps) .length = (.left rest.length, enum.reached steps)) ∧
    (∀ steps count,
      (∃ last, (enum.run (enum.reached steps) (List.replicate (enum.number count + 1) .next)).getLast? = some last ∧
        enum.Alike last (enum.step (enum.reached steps) (.nth count))) ∧
      ∃ last, (enum.run (enum.reached steps) (List.replicate (enum.number count + 1) .nextBack)).getLast? = some last ∧
        enum.Alike last (enum.step (enum.reached steps) (.nthBack count))) ∧
    (∀ before steps, .restart ∉ steps → ∃ rest, enum.Ahead (enum.reached (before ++ steps)) rest ∧
      InOrder (enum.takenFrom (enum.reached before) .front steps) rest
        (enum.takenFrom (enum.reached before) .back steps) ∧
      ((∀ step ∈ steps, enum.skips step = 0) →
        enum.Ahead (enum.reached before) (enum.row (enum.reached before) steps rest))) ∧
    (∀ before, enum.Ahead (enum.reached (before ++ [.restart])) all) ∧
    ∀ before step later, (enum.step (enum.reached before) step).1 = .taken none → .restart ∉ later →
      (∀ ask, ask.side? ≠ none → (enum.step (enum.reached (before ++ step :: later)) ask).1 = .taken none) ∧
      (enum.step (enum.reached (before ++ step :: later)) .length).1 = .left 0 := by
  refine ⟨?_, ?_, ?_, ?_, ?_⟩
  · intro steps
    obtain ⟨rest, ahead, segment⟩ := contract.exists_ahead steps
    exact ⟨rest, ahead, segment, by rw [Enumerator.step, contract.length ahead]⟩
  · intro steps count
    obtain ⟨rest, ahead, -⟩ := contract.exists_ahead steps
    exact ⟨contract.exists_alike_nth ahead count, contract.exists_alike_nthBack ahead count⟩
  · intro before steps noRestart
    obtain ⟨whole, ahead, segment⟩ := contract.exists_ahead before
    obtain ⟨rest, aheadRest, inWhole⟩ := contract.exists_row_sublist ahead noRestart
    rw [reached_append]
    refine ⟨rest, aheadRest, inOrder_of_sublist (inWhole.trans segment.sublist), ?_⟩
    intro noSkip
    obtain ⟨rest', aheadRest', isWhole⟩ := contract.exists_row_eq ahead noRestart noSkip
    rwa [aheadRest.unique aheadRest', isWhole]
  · intro before
    rw [reached_append]
    exact contract.start
  · intro before step later nothing noRestart
    obtain ⟨rest, ahead, -⟩ := contract.exists_ahead before
    have spent := contract.ahead_nil_after (contract.ahead_nil_of_taken_none ahead nothing) noRestart
    rw [reached_append, after_cons]
    refine ⟨fun ask takes => ?_, by rw [Enumerator.step, contract.length spent]; rfl⟩
    have notRestart : ask ≠ .restart := by
      rintro rfl
      exact takes rfl
    exact (contract.step_of_ahead_nil spent notRestart).1 takes

/-- A walk with counts of 32 bits: three colors are taken from both ends, one is skipped, two are left, and a jump by the
greatest count finds nothing, as does the step after it. -/
theorem order_of_walk_with_words :
    (Walk.enumerator UInt32.toNat).Contract ∧
    (Walk.enumerator UInt32.toNat).Ahead
      ((Walk.enumerator UInt32.toNat).reached [.next, .nth 1, .nextBack]) [.yellow, .wild] ∧
    InOrder [.red, .green] [.yellow, .wild] [.wildDrawFour] ∧
    ((Walk.enumerator UInt32.toNat).step
      ((Walk.enumerator UInt32.toNat).reached [.next, .nth 1, .nextBack]) (.nth 4294967295)).1 = .taken none ∧
    ((Walk.enumerator UInt32.toNat).step
      ((Walk.enumerator UInt32.toNat).reached [.next, .nth 1, .nextBack, .nth 4294967295]) .nextBack).1 =
        .taken none := by
  have contract := Walk.contract UInt32.toNat
  obtain ⟨-, -, inOrder, -, spent⟩ := order_from_both_ends contract
  obtain ⟨rest, ahead, order, -⟩ := inOrder [] [.next, .nth 1, .nextBack] (by decide)
  obtain rfl : rest = [.yellow, .wild] := ahead.unique (Walk.ahead_rest UInt32.toNat ⟨3, 1⟩)
  have nothing : ((Walk.enumerator UInt32.toNat).step
      ((Walk.enumerator UInt32.toNat).reached [.next, .nth 1, .nextBack]) (.nth 4294967295)).1 = .taken none := by
    decide
  obtain ⟨noMore, -⟩ := spent _ _ [] nothing List.not_mem_nil
  exact ⟨contract, ahead, order, nothing, noMore .nextBack (by decide)⟩

end Enumerator

end Uno.Color
