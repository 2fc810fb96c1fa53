import Mathlib.Data.Finset.Card
import Mathlib.Data.Finset.Image
import Uno.Hand
import Uno.Proofs.Card.RoundTrip

/-!
# What the texts of a hand tell

No two cards have the same text, also if one of them is a wild card with a value or a colored one without. So the texts
of the cards are all there is to know about a hand. Two cards, and likewise their codes, are equal exactly if their
texts are, the number of different cards is that of different texts, and a card that is written and read back is always
the same.

## Main results

* `Hand.eq_of_map_text_eq` — hands with the same texts are the same
* `Hand.step_reread`, `Hand.step_compare`, `Hand.step_countDistinct` — the answers in terms of the texts
-/

namespace Uno

namespace Hand

variable {hand hand' : Hand}

/-- Hands with the same texts are the same. -/
theorem eq_of_map_text_eq (same : hand.map Card.text = hand'.map Card.text) : hand = hand' :=
  List.map_injective_iff.mpr (fun _ _ => Card.text_injective) same

/-- A card that is written and read back is the same. -/
theorem step_reread {place : Nat} (lies : place < hand.length) :
    hand.step (.reread place) = some (.kept true, hand) := by
  have same : Card.sameOutcome (Card.read hand[place].text) (.ok hand[place]) = true :=
    Card.sameOutcome_iff.mpr hand[place].read_text
  simp [step, lies, same]

/-- Two cards are equal if their texts are, and so are their codes. -/
theorem step_compare {left right : Nat} {first second : Card}
    (liesLeft : hand[left]? = some first) (liesRight : hand[right]? = some second) :
    hand.step (.compare left right) =
      some (.compared (decide (first.text = second.text)) (decide (first.text = second.text)), hand) := by
  have sameCard : (first == second) = decide (first.text = second.text) := by
    rw [Bool.beq_eq_decide_eq, decide_eq_decide]
    exact ⟨congrArg Card.text, Card.text_injective⟩
  have sameCode : (first.code == second.code) = decide (first.text = second.text) := by
    rw [Bool.beq_eq_decide_eq, decide_eq_decide]
    exact ⟨fun same => congrArg Card.text (Card.code_injective same),
      fun same => congrArg Card.code (Card.text_injective same)⟩
  simp only [step, liesLeft, liesRight, sameCard, sameCode, Option.bind_eq_bind, Option.bind_some]
  rfl

/-- What is kept of a hand when copies are left out has no copies. -/
theorem nodup_eraseDups (hand : Hand) : hand.eraseDups.Nodup := by
  match hand with
  | [] => exact List.nodup_nil
  | card :: cards =>
    rw [List.eraseDups_cons, List.nodup_cons]
    refine ⟨?_, nodup_eraseDups _⟩
    rw [List.mem_eraseDups]
    simp
termination_by hand.length
decreasing_by exact Nat.lt_succ_of_le (List.length_filter_le _ _)

/-- There are as many different cards as different texts. -/
theorem step_countDistinct (hand : Hand) :
    hand.step .countDistinct = some (.counted (hand.map Card.text).toFinset.card, hand) := by
  have sameCards : hand.eraseDups.toFinset = hand.toFinset := by
    ext card
    simp
  have sameTexts : (hand.map Card.text).toFinset = hand.toFinset.image Card.text := by
    ext text
    simp
  have count : hand.eraseDups.length = (hand.map Card.text).toFinset.card :=
    calc hand.eraseDups.length
        = hand.eraseDups.toFinset.card := (List.toFinset_card_of_nodup hand.nodup_eraseDups).symm
      _ = hand.toFinset.card := by rw [sameCards]
      _ = (hand.toFinset.image Card.text).card :=
          (Finset.card_image_of_injective _ fun _ _ => Card.text_injective).symm
      _ = (hand.map Card.text).toFinset.card := by rw [sameTexts]
  rw [step, count]

end Hand

end Uno
