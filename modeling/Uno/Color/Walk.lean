import Uno.Color.Enumerator

/-!
# Walking through the colors

A walk is an enumeration of the colors that remembers how many of them it has passed from the front, and how many from
the back. As long as the two numbers do not exceed the number of all colors, the colors between the two positions are
still to come. A step that would lead beyond the other position takes nothing, and its position is put behind all
colors, so that no later step finds any. A jump from the front goes to its place at once. A jump from the back goes step
by step and gives up when there is nothing left.

Positions and counts are added as natural numbers, which do not overflow. Walks are what is run here; what is known of
the colors that come out is not shown of walks, but of any enumeration that keeps the contract, as walks do.

## Main definitions

* `Color.Walk` — the two positions
* `Walk.rest` — the colors still to come
* `Walk.next`, `Walk.nextBack`, `Walk.nth`, `Walk.nthBack` — the ways to take a color
* `Walk.enumerator`, `Walk.run` — walks of any length
-/

namespace Uno.Color

/-- A walk through the colors, given by how far it has come from either end. -/
structure Walk where
  /-- The number of colors that have been passed from the front. -/
  front : Nat
  /-- The number of colors that have been passed from the back. -/
  back : Nat
  deriving DecidableEq, Repr

namespace Walk

/-- A step of a walk. -/
abbrev Step := Enumerator.Step Nat

/-- What a step of a walk answers. -/
abbrev Answer := Enumerator.Answer

/-- The walk that has all colors before it. -/
def start : Walk :=
  ⟨0, 0⟩

/-- The colors that neither end has passed. -/
def rest (walk : Walk) : List Color :=
  (all.take (all.length - walk.back)).drop walk.front

/-- Skips `n` colors from the front and takes the one behind them. -/
def nth (walk : Walk) (n : Nat) : Option Color × Walk :=
  let front := walk.front + n + 1
  if front + walk.back ≤ all.length then (all[front - 1]?, { walk with front })
  else (none, { walk with front := all.length })

/-- Takes a color from the front. -/
def next (walk : Walk) : Option Color × Walk :=
  walk.nth 0

/-- Takes a color from the back. -/
def nextBack (walk : Walk) : Option Color × Walk :=
  let back := walk.back + 1
  if walk.front + back ≤ all.length then (all[all.length - back]?, { walk with back })
  else (none, { walk with back := all.length })

/-- Skips `n` colors from the back and takes the one in front of them. -/
def nthBack (walk : Walk) : Nat → Option Color × Walk
  | 0 => walk.nextBack
  | n + 1 =>
    match walk.nextBack with
    | (none, spent) => (none, spent)
    | (some _, later) => later.nthBack n

/-- The number of colors still to come. -/
def length (walk : Walk) : Nat :=
  all.length - (walk.front + walk.back)

/-- Walks as an enumeration, with counts that stand for numbers. -/
def enumerator {Count : Type} (number : Count → Nat) : Enumerator Walk Count where
  start := start
  next := next
  nextBack := nextBack
  nth walk count := walk.nth (number count)
  nthBack walk count := walk.nthBack (number count)
  length := length
  number := number

/-- The answers to a sequence of steps, each with the walk after its step. -/
def run (walk : Walk) (steps : List Step) : List (Answer × Walk) :=
  (enumerator id).run walk steps

end Walk

end Uno.Color
