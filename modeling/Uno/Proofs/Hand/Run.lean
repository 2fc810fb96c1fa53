import Uno.Proofs.Hand.Display
import Uno.Proofs.Hand.Step

/-!
# Runs of steps with a hand

What one step keeps is kept by all steps one after the other. So a hand never becomes shorter, and a card stays as it
is until a step names its place; a copy and its model are at two places, and a step names one place at most. The answers
to what comes later depend on the hand only, and a hand is known from the texts of its cards. Whoever sees these texts
therefore knows all that the steps before have left behind.

## Main definitions

* `Hand.after` — the hand after a sequence of steps

## Main results

* `Hand.after_induction` — what holds of a hand and is kept by every step holds in the end
* `Hand.drop_run_append` — the later part of a run is a run from the hand in between
* `Hand.length_le_after`, `Hand.getElem?_after` — what stays during a run
* `Hand.texts_describe_runs` — steps, copies, and what the texts of the cards tell
-/

namespace Uno

namespace Hand

/-- The hand after a sequence of steps. -/
def after (hand : Hand) (steps : List Step) : Option Hand :=
  (run hand steps).map fun record => (record.map Prod.snd).getLast?.getD hand

variable {hand next final : Hand} {step : Step} {steps more : List Step} {answer : Answer}

/-! ### Sequences of steps -/

theorem after_cons (possible : hand.step step = some (answer, next)) :
    hand.after (step :: steps) = next.after steps := by
  rw [after, after, run_cons possible, Option.map_map]
  congr 1
  funext record
  simp only [Function.comp_apply, List.map_cons, List.getLast?_cons, Option.getD_some]

/-- The first step leads to a hand from which the others lead on. -/
theorem exists_step_of_after_cons (reached : hand.after (step :: steps) = some final) :
    ∃ answer next, hand.step step = some (answer, next) ∧ next.after steps = some final := by
  cases possible : hand.step step with
  | none =>
    rw [after, run, possible] at reached
    contradiction
  | some result =>
    obtain ⟨answer, next⟩ := result
    rw [after_cons possible] at reached
    exact ⟨answer, next, rfl, reached⟩

/-- What holds of a hand and is kept by every step holds in the end. -/
theorem after_induction {P : Hand → Prop} (reached : hand.after steps = some final)
    (kept : ∀ step ∈ steps, ∀ (before : Hand) answer next, before.step step = some (answer, next) → P before → P next)
    (start : P hand) : P final := by
  induction steps generalizing hand with
  | nil =>
    obtain rfl := Option.some.inj reached
    exact start
  | cons step steps ih =>
    obtain ⟨answer, next, possible, reached⟩ := exists_step_of_after_cons reached
    exact ih reached (fun later member => kept later (List.mem_cons_of_mem step member))
      (kept step List.mem_cons_self hand answer next possible start)

/-- The later part of a run is a run from the hand in between. -/
theorem drop_run_append (reached : hand.after steps = some next) (more : List Step) :
    (run hand (steps ++ more)).map (·.drop steps.length) = run next more := by
  induction steps generalizing hand with
  | nil =>
    obtain rfl := Option.some.inj reached
    exact Option.map_id'
  | cons step steps ih =>
    obtain ⟨answer, between, possible, reached⟩ := exists_step_of_after_cons reached
    rw [← ih reached, List.cons_append, run_cons possible, Option.map_map]
    rfl

/-! ### What stays during a run -/

/-- A hand never becomes shorter. -/
theorem length_le_after (reached : hand.after steps = some final) : hand.length ≤ final.length := by
  refine after_induction reached (P := fun later => hand.length ≤ later.length) ?_ (Nat.le_refl _)
  intro step _ before answer next possible longer
  exact Nat.le_trans longer (length_le_of_step possible)

/-- A card stays as it is if no step names its place. -/
theorem getElem?_after {place : Nat} {card : Card} (reached : hand.after steps = some final)
    (others : ∀ step ∈ steps, ¬ step.Names place) (lies : hand[place]? = some card) :
    final[place]? = some card := by
  refine after_induction reached (P := fun later => later[place]? = some card) ?_ lies
  intro step member before answer next possible stays
  exact getElem?_step possible (others step member) stays

/-- A copy lies behind the other cards and is equal to its model. Neither of the two changes with the other. -/
theorem copy_independent {place : Nat} (possible : hand.step (.copy place) = some (answer, next)) :
    ∃ card, hand[place]? = some card ∧ next = hand ++ [card] ∧
      ∀ more final, next.after more = some final →
        ((∀ step ∈ more, ¬ step.Names place) → final[place]? = some card) ∧
        ((∀ step ∈ more, ¬ step.Names hand.length) → final[hand.length]? = some card) := by
  obtain ⟨-, changed⟩ | ⟨notDone, -⟩ := step_cases possible
  · cases changed with
    | @copy _ card lies =>
      have inRange : place < hand.length := (List.getElem?_eq_some_iff.mp lies).1
      have model : (hand ++ [card])[place]? = some card := by
        rw [List.getElem?_append_left inRange, lies]
      refine ⟨card, lies, rfl, fun more final reached => ⟨fun others => ?_, fun others => ?_⟩⟩
      · exact getElem?_after reached others model
      · exact getElem?_after reached others List.getElem?_concat_length
  · obtain ⟨card, lies, ended⟩ := Option.bind_eq_some_iff.mp possible
    cases ended
    contradiction

-- The copy gets a color of its own.
example : after [] [.add Card.wild, .copy 0, .setColor 1 .red] = some [Card.wild, ⟨.red, none⟩] := by
  rfl

/-- **The texts of the cards describe a hand.** In a run that begins with the empty hand, a step is possible exactly if
there are cards at the places that it needs. If it has nothing to report, it has added one card behind the others,
which stay, or changed the card at its own place in the part that it names, or nothing; if it has something to report,
such as a fault, it has changed nothing. A hand never becomes shorter. A copy is equal to its model, and as long as no
step names the place of one of the two, this one stays as it is, whatever happens to the other. The text of each card
is read as the card, two cards and their codes are equal exactly if their texts are, and the number of different cards
is the number of different texts. If two runs have led to hands with the same texts, whatever steps come next have the
same answers in both. -/
theorem texts_describe_runs :
    (∀ steps hand, after [] steps = some hand → ∀ step : Step,
      ((∃ answer next, hand.step step = some (answer, next)) ↔ ∀ place ∈ step.places, place < hand.length) ∧
      ∀ answer next, hand.step step = some (answer, next) →
        (answer = .done → step.target.Allows hand next) ∧ (answer ≠ .done → next = hand)) ∧
    (∀ steps more hand final, after [] steps = some hand → hand.after more = some final →
      hand.length ≤ final.length) ∧
    (∀ steps hand, after [] steps = some hand → ∀ place answer next,
      hand.step (.copy place) = some (answer, next) →
      ∃ card, hand[place]? = some card ∧ next = hand ++ [card] ∧
        ∀ more final, next.after more = some final →
          ((∀ step ∈ more, ¬ step.Names place) → final[place]? = some card) ∧
          ((∀ step ∈ more, ¬ step.Names hand.length) → final[hand.length]? = some card)) ∧
    (∀ steps hand, after [] steps = some hand →
      (∀ card ∈ hand, Card.read card.text = .ok card) ∧
      (∀ place < hand.length, hand.step (.reread place) = some (.kept true, hand)) ∧
      (∀ (left right : Nat) (first second : Card), hand[left]? = some first → hand[right]? = some second →
        hand.step (.compare left right) =
          some (.compared (decide (first.text = second.text)) (decide (first.text = second.text)), hand)) ∧
      hand.step .countDistinct = some (.counted (hand.map Card.text).toFinset.card, hand)) ∧
    ∀ steps steps' hand hand', after [] steps = some hand → after [] steps' = some hand' →
      hand.map Card.text = hand'.map Card.text → ∀ more,
      (run [] (steps ++ more)).map (·.drop steps.length) = (run [] (steps' ++ more)).map (·.drop steps'.length) := by
  refine ⟨?_, ?_, ?_, ?_, ?_⟩
  · intro steps hand _ step
    refine ⟨exists_step_iff, fun answer next possible => ?_⟩
    obtain ⟨done, changed⟩ | ⟨notDone, stays⟩ := step_cases possible
    · exact ⟨fun _ => changed.allows, fun notDone => absurd done notDone⟩
    · exact ⟨fun done => absurd done notDone, fun _ => stays⟩
  · intro steps more hand final _ reached
    exact length_le_after reached
  · intro steps hand _ place answer next possible
    exact copy_independent possible
  · intro steps hand _
    exact ⟨fun card _ => card.read_text, fun place => step_reread, fun left right first second => step_compare,
      step_countDistinct hand⟩
  · intro steps steps' hand hand' reached reached' same more
    rw [drop_run_append reached, drop_run_append reached', eq_of_map_text_eq same]

end Hand

end Uno
