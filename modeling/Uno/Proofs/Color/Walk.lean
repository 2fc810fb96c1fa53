import Uno.Color.Walk

/-!
# Walks keep the contract of enumerations

The colors that neither end of a walk has passed are the ones that the front goes on to give. A position that has been
put behind all colors crosses the other one, but then no color lies between the two, and none has been there before: so
it does not matter that positions cross. Each way to take a color is compared with the list of the colors still to come
once, and what is promised of enumerations follows.

## Main results

* `Walk.nth_eq`, `Walk.nextBack_eq`, `Walk.nthBack_eq` — what a walk takes, and what is left of it
* `Walk.ahead_rest` — the front gives what neither end has passed
* `Walk.contract` — walks are enumerations, whatever counts stand for
-/

namespace Uno.Color.Walk

variable {Count : Type} (number : Count → Nat) (walk : Walk) (n : Nat)

theorem length_rest : walk.rest.length = walk.length := by
  simp only [rest, length, List.length_drop, List.length_take]
  omega

/-- The color at a place among those still to come. -/
theorem getElem?_rest :
    walk.rest[n]? = if walk.front + n + walk.back < all.length then all[walk.front + n]? else none := by
  rw [rest, List.getElem?_drop, List.getElem?_take]
  congr 1
  rw [eq_iff_iff]
  omega

/-- A jump takes the color at its place, and leaves those behind it. -/
theorem nth_eq : (walk.nth n).1 = walk.rest[n]? ∧ (walk.nth n).2.rest = walk.rest.drop (n + 1) := by
  rw [getElem?_rest]
  simp only [nth, rest, List.drop_drop]
  split
  · rw [if_pos (by omega)]
    exact ⟨rfl, by rw [Nat.add_assoc]⟩
  · rw [if_neg (by omega)]
    have passed : all.length ≤ walk.front + (n + 1) + walk.back := by omega
    refine ⟨rfl, ?_⟩
    rw [List.drop_eq_nil_of_le (by simp), List.drop_eq_nil_of_le (by simp; omega)]

/-- The back takes the last color, and leaves the others. -/
theorem nextBack_eq : walk.nextBack.1 = walk.rest.getLast? ∧ walk.nextBack.2.rest = walk.rest.dropLast := by
  rw [List.getLast?_eq_getElem?, getElem?_rest, List.dropLast_eq_take, length_rest, length]
  simp only [nextBack]
  split
  · have place : walk.front + (all.length - (walk.front + walk.back) - 1) = all.length - (walk.back + 1) := by omega
    have fewer : min (all.length - (walk.back + 1)) (all.length - walk.back) = all.length - (walk.back + 1) := by omega
    have others : walk.rest.take (all.length - (walk.front + walk.back) - 1) =
        (all.take (all.length - (walk.back + 1))).drop walk.front := by
      rw [rest, List.take_drop, place, List.take_take, fewer]
    rw [if_pos (by omega), place, others]
    exact ⟨rfl, rfl⟩
  · have none_left : all.length - (walk.front + walk.back) - 1 = 0 := by omega
    rw [if_neg (by omega), none_left, List.take_zero]
    exact ⟨rfl, by simp [rest]⟩

/-- A jump from the back is a jump from the front of the colors in reverse. -/
theorem nthBack_eq :
    (walk.nthBack n).1 = walk.rest.reverse[n]? ∧
      (walk.nthBack n).2.rest = (walk.rest.reverse.drop (n + 1)).reverse := by
  induction n generalizing walk with
  | zero =>
    rw [nthBack, walk.nextBack_eq.1, walk.nextBack_eq.2, ← List.head?_eq_getElem?]
    simp
  | succ n ih =>
    obtain ⟨last, others⟩ := walk.nextBack_eq
    rw [nthBack]
    split
    -- The jump gives up when there is no color left.
    · rename_i spent gave
      rw [gave] at last others
      have nothing : walk.rest = [] := List.getLast?_eq_none_iff.mp last.symm
      rw [nothing] at others ⊢
      exact ⟨rfl, others⟩
    · rename_i color later gave
      rw [gave] at last others
      obtain ⟨before, whole⟩ := List.getLast?_eq_some_iff.mp last.symm
      rw [whole, List.dropLast_concat] at others
      simpa [whole, others] using ih later

/-- The front gives the colors that neither end has passed. -/
theorem ahead_rest : (enumerator number).Ahead walk walk.rest := by
  generalize isRest : walk.rest = rest
  induction rest generalizing walk with
  | nil =>
    apply Enumerator.Ahead.spent
    exact (walk.nth_eq 0).1.trans (by rw [isRest]; rfl)
  | cons color rest ih =>
    obtain ⟨first, others⟩ := walk.nth_eq 0
    rw [isRest] at first others
    exact .more first (ih _ others)

theorem rest_eq_of_ahead {rest : List Color} (ahead : (enumerator number).Ahead walk rest) : walk.rest = rest :=
  (ahead_rest number walk).unique ahead

/-- Walks keep the contract of enumerations, whatever their counts stand for. -/
theorem contract : (enumerator number).Contract where
  start := ahead_rest number start
  next {walk} spent := by
    have left : walk.next.2.rest = [] := by
      rw [next, (walk.nth_eq 0).2, rest_eq_of_ahead number walk spent]
      rfl
    exact left ▸ ahead_rest number _
  nextBack {walk rest} ahead := by
    obtain rfl := rest_eq_of_ahead number walk ahead
    exact ⟨walk.nextBack_eq.1, walk.nextBack_eq.2 ▸ ahead_rest number _⟩
  nth {walk rest} ahead count := by
    obtain rfl := rest_eq_of_ahead number walk ahead
    obtain ⟨taken, left⟩ := walk.nth_eq (number count)
    exact ⟨taken, left ▸ ahead_rest number _⟩
  nthBack {walk rest} ahead count := by
    obtain rfl := rest_eq_of_ahead number walk ahead
    obtain ⟨taken, left⟩ := walk.nthBack_eq (number count)
    exact ⟨taken, left ▸ ahead_rest number _⟩
  length {walk rest} ahead := by
    obtain rfl := rest_eq_of_ahead number walk ahead
    exact walk.length_rest.symm

end Uno.Color.Walk
