import Uno.Card.Reader

/-!
# Hands

A hand is a list of cards that grows at its end. Its cards are values: a copy of a card is equal to its model
and goes its own way afterwards. A step adds a card, changes the color or the value of one, or asks something.
A card or a tag given as text is read first; if it cannot be read, the fault is the answer and the hand stays
as it was. A step that names a place where no card lies is not a step of that hand.

## Main definitions

* `Hand` — the cards, in the order in which they were added
* `Hand.Step`, `Hand.Answer`, `Hand.step` — the steps, their answers, and what a step does
* `Hand.run` — the answers to a sequence of steps

## Main results

* `Hand.run_cons` — a run is its first step and the run from there
-/

namespace Uno

/-- The cards, in the order in which they were added. -/
abbrev Hand := List Card

namespace Hand

/-- A step with a hand. Places are counted from zero. -/
inductive Step
  /-- Adds a card. -/
  | add (card : Card)
  /-- Adds the card that a text spells. -/
  | read (text : String)
  /-- Adds a copy of a card. -/
  | copy (place : Nat)
  /-- Gives a card another color. -/
  | setColor (place : Nat) (color : Color)
  /-- Gives a card another value, or none. -/
  | setValue (place : Nat) (value : Option Value)
  /-- Gives a card the color that a tag spells. -/
  | readColor (place : Nat) (tag : String)
  /-- Gives a card the value that a tag spells. -/
  | readValue (place : Nat) (tag : String)
  /-- Compares two cards and their codes. -/
  | compare (left right : Nat)
  /-- Asks whether the color of a card is wild. -/
  | isWild (place : Nat)
  /-- Asks for a card. -/
  | get (place : Nat)
  /-- Asks how many different cards there are. -/
  | countDistinct
  /-- Writes a card, reads it back, and asks whether it is the same. -/
  | reread (place : Nat)
  deriving DecidableEq, Repr

/-- What a step answers. -/
inductive Answer
  /-- Nothing to report. -/
  | done
  /-- A text could not be read. -/
  | refused (fault : CardError)
  /-- Whether two cards are equal, and whether their codes are. -/
  | compared (equal sameCode : Bool)
  /-- Whether a card is wild. -/
  | wild (answer : Bool)
  /-- A card. -/
  | found (card : Card)
  /-- A number of cards. -/
  | counted (count : Nat)
  /-- Whether a card that was written and read back is the same. -/
  | kept (answer : Bool)
  deriving DecidableEq, Repr

/-- The answer to a step and the hand after it, unless the step names a place where no card lies. -/
def step (hand : Hand) : Step → Option (Answer × Hand)
  | .add card => some (.done, hand ++ [card])
  | .read text =>
    match Card.read text with
    | .ok card => some (.done, hand ++ [card])
    | .error fault => some (.refused fault, hand)
  | .copy place => do
    let card ← hand[place]?
    return (.done, hand ++ [card])
  | .setColor place color => do
    let card ← hand[place]?
    return (.done, hand.set place ⟨color, card.value⟩)
  | .setValue place value => do
    let card ← hand[place]?
    return (.done, hand.set place ⟨card.color, value⟩)
  | .readColor place tag => do
    let card ← hand[place]?
    match Color.read tag with
    | .ok color => return (.done, hand.set place ⟨color, card.value⟩)
    | .error fault => return (.refused fault, hand)
  | .readValue place tag => do
    let card ← hand[place]?
    match Value.read tag with
    | .ok value => return (.done, hand.set place ⟨card.color, some value⟩)
    | .error fault => return (.refused fault, hand)
  | .compare left right => do
    let first ← hand[left]?
    let second ← hand[right]?
    return (.compared (first == second) (first.code == second.code), hand)
  | .isWild place => do
    let card ← hand[place]?
    return (.wild card.color.isWild, hand)
  | .get place => do
    let card ← hand[place]?
    return (.found card, hand)
  | .countDistinct => some (.counted hand.eraseDups.length, hand)
  | .reread place => do
    let card ← hand[place]?
    return (.kept (Card.sameOutcome (Card.read card.text) (.ok card)), hand)

/-- The answers to a sequence of steps, each with the hand after its step. -/
def run (hand : Hand) : List Step → Option (List (Answer × Hand))
  | [] => some []
  | step :: steps =>
    match hand.step step with
    | none => none
    | some (answer, after) => (run after steps).map ((answer, after) :: ·)

/-- A run is its first step and the run from there. -/
theorem run_cons {hand after : Hand} {step : Step} {steps : List Step} {answer : Answer}
    (possible : hand.step step = some (answer, after)) :
    run hand (step :: steps) = (run after steps).map ((answer, after) :: ·) := by
  rw [run, possible]

end Hand

end Uno
