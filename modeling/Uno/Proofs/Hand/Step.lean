import Mathlib.Data.List.Basic
import Uno.Hand

/-!
# What a step can do to a hand

A step that is possible either does what it says, with nothing to report, or leaves the hand as it is. What it says can
be told from the step: it adds a card at the end, it gives another color or another value to the card at one place, or
it changes nothing. All that holds of a hand after a step is derived from this. The hand does not become shorter, and a
card at a place that the step does not name is the same as before.

## Main definitions

* `Hand.Change` — a step does what it says
* `Hand.Target`, `Hand.Step.target`, `Hand.Target.Allows` — what a step may change
* `Hand.Step.places` — the places where a step needs a card

## Main results

* `Hand.exists_step_iff` — a step is possible exactly if there are cards at its places
* `Hand.step_cases` — a step that is possible does what it says or leaves the hand as it is
* `Hand.Change.allows` — a step changes nothing but what it names
* `Hand.getElem?_step` — the cards at other places stay
-/

namespace Uno

namespace Hand

/-- A step does what it says. -/
inductive Change (hand : Hand) : Step → Hand → Prop
  | add (card : Card) : Change hand (.add card) (hand ++ [card])
  | read {text : String} {card : Card} (isCard : Card.read text = .ok card) :
      Change hand (.read text) (hand ++ [card])
  | copy {place : Nat} {card : Card} (lies : hand[place]? = some card) :
      Change hand (.copy place) (hand ++ [card])
  | setColor {place : Nat} {card : Card} (lies : hand[place]? = some card) (color : Color) :
      Change hand (.setColor place color) (hand.set place ⟨color, card.value⟩)
  | setValue {place : Nat} {card : Card} (lies : hand[place]? = some card) (value : Option Value) :
      Change hand (.setValue place value) (hand.set place ⟨card.color, value⟩)
  | readColor {place : Nat} {card : Card} {tag : String} {color : Color} (lies : hand[place]? = some card)
      (isColor : Color.read tag = .ok color) :
      Change hand (.readColor place tag) (hand.set place ⟨color, card.value⟩)
  | readValue {place : Nat} {card : Card} {tag : String} {value : Value} (lies : hand[place]? = some card)
      (isValue : Value.read tag = .ok value) :
      Change hand (.readValue place tag) (hand.set place ⟨card.color, some value⟩)

/-- What a step may change. -/
inductive Target
  | nothing
  /-- There may be one more card. -/
  | newCard
  /-- The color of the card at a place may be another. -/
  | color (place : Nat)
  /-- The value of the card at a place may be another. -/
  | value (place : Nat)
  deriving DecidableEq, Repr

/-- What a step may change. -/
def Step.target : Step → Target
  | .add _ | .read _ | .copy _ => .newCard
  | .setColor place _ | .readColor place _ => .color place
  | .setValue place _ | .readValue place _ => .value place
  | .compare _ _ | .isWild _ | .get _ | .countDistinct | .reread _ => .nothing

/-- A hand differs from another one in nothing but a target. -/
def Target.Allows (hand next : Hand) : Target → Prop
  | .nothing => next = hand
  | .newCard => ∃ card, next = hand ++ [card]
  | .color place => ∃ card color, hand[place]? = some card ∧ next = hand.set place ⟨color, card.value⟩
  | .value place => ∃ card value, hand[place]? = some card ∧ next = hand.set place ⟨card.color, value⟩

/-- A step may change the card at a place. -/
def Step.Names (step : Step) (place : Nat) : Prop :=
  step.target = .color place ∨ step.target = .value place

/-- The places where a step needs a card. -/
def Step.places : Step → List Nat
  | .add _ | .read _ | .countDistinct => []
  | .copy place | .setColor place _ | .setValue place _ | .readColor place _ | .readValue place _
  | .isWild place | .get place | .reread place => [place]
  | .compare left right => [left, right]

variable {hand next : Hand} {step : Step} {answer : Answer}

/-! ### The effect of a step -/

/-- A step is possible exactly if there are cards at its places. -/
theorem exists_step_iff :
    (∃ answer next, hand.step step = some (answer, next)) ↔ ∀ place ∈ step.places, place < hand.length := by
  have lies_iff (place : Nat) : (∃ card, hand[place]? = some card) ↔ place < hand.length := by
    simp [List.getElem?_eq_some_iff]
  cases step
  case read text => cases h : Card.read text <;> simp [Hand.step, Step.places, h]
  case readColor place tag =>
    cases h : Color.read tag <;> simp [Hand.step, Step.places, Option.bind_eq_some_iff, h, lies_iff]
  case readValue place tag =>
    cases h : Value.read tag <;> simp [Hand.step, Step.places, Option.bind_eq_some_iff, h, lies_iff]
  all_goals simp [Hand.step, Step.places, Option.bind_eq_some_iff, lies_iff]

/-- A step that is possible does what it says or leaves the hand as it is. -/
theorem step_cases (possible : hand.step step = some (answer, next)) :
    (answer = .done ∧ Change hand step next) ∨ (answer ≠ .done ∧ next = hand) := by
  cases step
  case add card =>
    cases possible
    exact Or.inl ⟨rfl, .add card⟩
  case read text =>
    simp only [Hand.step] at possible
    split at possible
    case h_1 card isCard =>
      cases possible
      exact Or.inl ⟨rfl, .read isCard⟩
    case h_2 =>
      cases possible
      exact Or.inr ⟨nofun, rfl⟩
  case copy place =>
    obtain ⟨card, lies, ended⟩ := Option.bind_eq_some_iff.mp possible
    cases ended
    exact Or.inl ⟨rfl, .copy lies⟩
  case setColor place color =>
    obtain ⟨card, lies, ended⟩ := Option.bind_eq_some_iff.mp possible
    cases ended
    exact Or.inl ⟨rfl, .setColor lies color⟩
  case setValue place value =>
    obtain ⟨card, lies, ended⟩ := Option.bind_eq_some_iff.mp possible
    cases ended
    exact Or.inl ⟨rfl, .setValue lies value⟩
  case readColor place tag =>
    obtain ⟨card, lies, ended⟩ := Option.bind_eq_some_iff.mp possible
    cases isColor : Color.read tag with
    | ok color =>
      rw [isColor] at ended
      cases ended
      exact Or.inl ⟨rfl, .readColor lies isColor⟩
    | error fault =>
      rw [isColor] at ended
      cases ended
      exact Or.inr ⟨nofun, rfl⟩
  case readValue place tag =>
    obtain ⟨card, lies, ended⟩ := Option.bind_eq_some_iff.mp possible
    cases isValue : Value.read tag with
    | ok value =>
      rw [isValue] at ended
      cases ended
      exact Or.inl ⟨rfl, .readValue lies isValue⟩
    | error fault =>
      rw [isValue] at ended
      cases ended
      exact Or.inr ⟨nofun, rfl⟩
  case compare left right =>
    obtain ⟨first, -, compared⟩ := Option.bind_eq_some_iff.mp possible
    obtain ⟨second, -, ended⟩ := Option.bind_eq_some_iff.mp compared
    cases ended
    exact Or.inr ⟨nofun, rfl⟩
  case countDistinct =>
    cases possible
    exact Or.inr ⟨nofun, rfl⟩
  -- What is left asks something of the card at one place.
  all_goals
    obtain ⟨card, -, ended⟩ := Option.bind_eq_some_iff.mp possible
    cases ended
    exact Or.inr ⟨nofun, rfl⟩

/-- A step that does what it says changes nothing but what it names. -/
theorem Change.allows (changed : Change hand step next) : step.target.Allows hand next := by
  cases changed with
  | add card | read _ | copy _ => exact ⟨_, rfl⟩
  | setColor lies _ | readColor lies _ => exact ⟨_, _, lies, rfl⟩
  | setValue lies _ | readValue lies _ => exact ⟨_, _, lies, rfl⟩

/-! ### What stays -/

theorem Target.Allows.length_le {target : Target} (allowed : target.Allows hand next) :
    hand.length ≤ next.length := by
  cases target with
  | nothing =>
    obtain rfl := allowed
    exact Nat.le_refl _
  | newCard =>
    obtain ⟨card, rfl⟩ := allowed
    simp
  | color place =>
    obtain ⟨card, color, -, rfl⟩ := allowed
    simp
  | value place =>
    obtain ⟨card, value, -, rfl⟩ := allowed
    simp

/-- A hand does not become shorter. -/
theorem length_le_of_step (possible : hand.step step = some (answer, next)) : hand.length ≤ next.length := by
  obtain ⟨-, changed⟩ | ⟨-, rfl⟩ := step_cases possible
  · exact changed.allows.length_le
  · exact Nat.le_refl _

theorem Target.Allows.getElem?_eq {target : Target} {place : Nat} {card : Card} (allowed : target.Allows hand next)
    (otherColor : target ≠ .color place) (otherValue : target ≠ .value place) (lies : hand[place]? = some card) :
    next[place]? = some card := by
  cases target with
  | nothing =>
    obtain rfl := allowed
    exact lies
  | newCard =>
    obtain ⟨new, rfl⟩ := allowed
    rw [List.getElem?_append_left (List.getElem?_eq_some_iff.mp lies).1, lies]
  | color other =>
    obtain ⟨_, color, -, rfl⟩ := allowed
    rw [List.getElem?_set_ne (fun same => otherColor (congrArg Target.color same)), lies]
  | value other =>
    obtain ⟨_, value, -, rfl⟩ := allowed
    rw [List.getElem?_set_ne (fun same => otherValue (congrArg Target.value same)), lies]

/-- A card at a place that a step does not name stays as it is. -/
theorem getElem?_step {place : Nat} {card : Card} (possible : hand.step step = some (answer, next))
    (other : ¬ step.Names place) (lies : hand[place]? = some card) : next[place]? = some card := by
  obtain ⟨-, changed⟩ | ⟨-, rfl⟩ := step_cases possible
  · exact changed.allows.getElem?_eq (mt Or.inl other) (mt Or.inr other) lies
  · exact lies

end Hand

end Uno
