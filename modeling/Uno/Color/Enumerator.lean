import Uno.Color

/-!
# Enumerating the colors

The colors can be enumerated from both ends at once. How this is done is left open here: the enumeration is generated
from the list of the colors by a library, and all that is known of it is what can be asked of it and what is promised
of the answers. It is therefore a parameter. An enumerator has states of some type, and its contract is what the
library promises of enumerations of any kind.

The contract speaks of the colors that are still to come. These are not read off a state, of which nothing is known,
but found by asking: they are the colors that the front gives one by one until it gives none.

A count of colors to be skipped can be a natural number or a word of a machine; an enumerator says which number a
count stands for. The contract has to be kept for all of its counts. An enumeration that adds its position to a count
and overflows keeps it with the counts that are small enough only, and so these are the counts of the enumerator.

## Main definitions

* `Color.Enumerator` — what can be asked of an enumeration
* `Enumerator.Step`, `Enumerator.Answer`, `Enumerator.step`, `Enumerator.run` — sequences of questions of any length
* `Enumerator.Ahead` — the colors still to come
* `Enumerator.Contract` — what is promised of the answers

## Main results

* `Enumerator.Ahead.unique` — the colors still to come are determined by the state
-/

namespace Uno.Color

/-- What can be asked of an enumeration of the colors from both ends. A question that takes a color changes the
state. -/
structure Enumerator (State Count : Type) where
  /-- The state of a new enumeration. -/
  start : State
  /-- Takes a color from the front. -/
  next : State → Option Color × State
  /-- Takes a color from the back. -/
  nextBack : State → Option Color × State
  /-- Skips colors from the front and takes the one behind them. -/
  nth : State → Count → Option Color × State
  /-- Skips colors from the back and takes the one in front of them. -/
  nthBack : State → Count → Option Color × State
  /-- Counts the colors still to come. -/
  length : State → Nat
  /-- The number that a count stands for. -/
  number : Count → Nat

namespace Enumerator

/-- One step of an enumeration. -/
inductive Step (Count : Type)
  | next
  | nextBack
  | nth (count : Count)
  | nthBack (count : Count)
  | length
  | restart
  deriving DecidableEq, Repr

/-- What a step answers. -/
inductive Answer
  /-- The color that was taken, if there was one. -/
  | taken (color : Option Color)
  /-- The number of colors still to come. -/
  | left (count : Nat)
  /-- Nothing to report. -/
  | done
  deriving DecidableEq, Repr

variable {State Count : Type}

/-- The answer to a step, and the state after it. -/
def step (enum : Enumerator State Count) (state : State) : Step Count → Answer × State
  | .next => (.taken (enum.next state).1, (enum.next state).2)
  | .nextBack => (.taken (enum.nextBack state).1, (enum.nextBack state).2)
  | .nth count => (.taken (enum.nth state count).1, (enum.nth state count).2)
  | .nthBack count => (.taken (enum.nthBack state count).1, (enum.nthBack state count).2)
  | .length => (.left (enum.length state), state)
  | .restart => (.done, enum.start)

/-- The answers to a sequence of steps, each with the state after its step. -/
def run (enum : Enumerator State Count) (state : State) : List (Step Count) → List (Answer × State)
  | [] => []
  | step :: steps => enum.step state step :: enum.run (enum.step state step).2 steps

/-- The colors still to come: those that the front gives one by one until it gives none. -/
inductive Ahead (enum : Enumerator State Count) : State → List Color → Prop
  | spent {state : State} (nothing : (enum.next state).1 = none) : Ahead enum state []
  | more {state : State} {color : Color} {rest : List Color} (taken : (enum.next state).1 = some color)
      (later : Ahead enum (enum.next state).2 rest) : Ahead enum state (color :: rest)

/-- What is promised of an enumeration. -/
structure Contract (enum : Enumerator State Count) : Prop where
  /-- A new enumeration has all colors before it, in their order. -/
  start : enum.Ahead enum.start all
  /-- A front that has given no color stays without one. -/
  next {state : State} (spent : enum.Ahead state []) : enum.Ahead (enum.next state).2 []
  /-- The back takes the color that the front would give last, and leaves the others. -/
  nextBack {state : State} {rest : List Color} (ahead : enum.Ahead state rest) :
    (enum.nextBack state).1 = rest.getLast? ∧ enum.Ahead (enum.nextBack state).2 rest.dropLast
  /-- A jump takes the color behind those that it skips, and these do not come any more. -/
  nth {state : State} {rest : List Color} (ahead : enum.Ahead state rest) (count : Count) :
    (enum.nth state count).1 = rest[enum.number count]? ∧
      enum.Ahead (enum.nth state count).2 (rest.drop (enum.number count + 1))
  /-- A jump from the back does the same with the colors in reverse. -/
  nthBack {state : State} {rest : List Color} (ahead : enum.Ahead state rest) (count : Count) :
    (enum.nthBack state count).1 = rest.reverse[enum.number count]? ∧
      enum.Ahead (enum.nthBack state count).2 (rest.reverse.drop (enum.number count + 1)).reverse
  /-- The front gives as many colors as are counted. -/
  length {state : State} {rest : List Color} (ahead : enum.Ahead state rest) : enum.length state = rest.length

/-- The colors still to come are determined by the state. -/
theorem Ahead.unique {enum : Enumerator State Count} {state : State} {rest rest' : List Color}
    (ahead : enum.Ahead state rest) (ahead' : enum.Ahead state rest') : rest = rest' := by
  induction ahead generalizing rest' with
  | spent nothing =>
    cases ahead' with
    | spent => rfl
    | more taken' => simp [nothing] at taken'
  | more taken later ih =>
    cases ahead' with
    | spent nothing' => simp [nothing'] at taken
    | more taken' later' =>
      obtain rfl := Option.some.inj (taken.symm.trans taken')
      rw [ih later']

end Enumerator

end Uno.Color
