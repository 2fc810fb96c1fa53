import Uno.Text.LetterCase

/-!
# Actions

An action card does something to the next player instead of counting points. Like a color, an action has one
text in which it is written and one or more spellings in which it is read, and letter case does not matter to
a reader.

## Main definitions

* `Action`, `Action.all` — the three actions
* `Action.text` — the written form
* `Action.spellings`, `Action.ofTag?` — the forms that are read, and the reader

## Main results

* `Action.mem_all` — the list of all actions is complete
* `Action.ofTag?_text` — the written form of an action is read as that action
-/

namespace Uno

/-- What an action card does to the next player. -/
inductive Action
  | skip
  | reverse
  | drawTwo
  deriving DecidableEq, Repr

namespace Action

/-- The actions in their order. -/
def all : List Action :=
  [.skip, .reverse, .drawTwo]

/-- The name of an action in the structural notation. -/
def name : Action → String
  | .skip => "Skip"
  | .reverse => "Reverse"
  | .drawTwo => "DrawTwo"

/-- The tag in which an action is written. -/
def text : Action → String
  | .skip => "SKIP"
  | .reverse => "REVERSE"
  | .drawTwo => "DRAW_TWO"

/-- The tags in which an action is read, in capitals. -/
def spellings : Action → List String
  | .skip => ["SKIP"]
  | .reverse => ["REVERSE"]
  | .drawTwo => ["DRAW_TWO", "DRAW2", "+2"]

/-- The action that a tag spells in any mixture of capital and small letters. -/
def ofTag? (tag : String) : Option Action :=
  all.find? fun action => action.spellings.any (Text.sameLetters tag)

/-- The list of all actions is complete. -/
theorem mem_all (action : Action) : action ∈ all := by
  cases action <;> decide

/-- The written form of an action is read as that action. -/
@[simp] theorem ofTag?_text (action : Action) : ofTag? action.text = some action := by
  cases action <;> decide

end Action

end Uno
