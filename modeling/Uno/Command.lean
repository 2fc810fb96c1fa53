import Uno.Text.Layout
import Uno.Text.Quoted

/-!
# Commands

The program knows two commands: to show the cards that are written in some texts, and to list the colors.

## Main definitions

* `Command` — what the program is asked to do
* `Command.outline` — a command in the structural notation
-/

namespace Uno

/-- What the program is asked to do. -/
inductive Command
  /-- Read the cards in the given texts and describe each of them. -/
  | show (cards : List String)
  /-- List the colors. -/
  | colors
  deriving DecidableEq, Repr

namespace Command

open Text (Layout)

variable [Text.Repertoire]

/-- The structure of a command in the compact layout, the texts of its cards in quotes. -/
def outline (command : Command) : String :=
  let inner :=
    match command with
    | .show cards =>
      Layout.compact.record "Show" [("cards", Layout.compact.list (cards.map Text.quoted))]
    | .colors => "Colors"
  Layout.compact.record "Args" [("command", inner)]

end Command

end Uno
