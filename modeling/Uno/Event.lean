import Uno.Card
import Uno.Command
import Uno.Level

/-!
# Events

While it works, the program notes what it does: which command it understood, which text it is about to read,
which card it read from that text, and which card of the command line is done. An event has a level, the part
of the program that it comes from, a message, and one named detail. A detail that is text from outside stands
in quotes where it is written down.

## Main definitions

* `Event` — what can happen
* `Event.level`, `Event.source`, `Event.message`, `Event.detailName`, `Event.detail` — its parts
* `Event.line` — an event as one line of the log
* `Verbosity.log` — the lines of the events that are written down
-/

namespace Uno

/-- Something that happens while the program works. -/
inductive Event
  /-- The command line has been understood. -/
  | understood (command : Command)
  /-- A text is about to be read as a card. -/
  | reading (text : String)
  /-- The text was a card. -/
  | recognized (card : Card)
  /-- A card of the command line is done. -/
  | accepted (card : Card)
  deriving DecidableEq, Repr

namespace Event

/-- How much an event matters. -/
def level : Event → Level
  | .understood _ => .debug
  | .reading _ => .trace
  | .recognized _ => .debug
  | .accepted _ => .info

/-- The part of the program that an event comes from. -/
def source : Event → String
  | .understood _ => "unocard_cli"
  | .reading _ | .recognized _ => "unocard::card"
  | .accepted _ => "unocard_cli::commands::show"

/-- The message of an event. -/
def message : Event → String
  | .understood _ => "parsed arguments"
  | .reading _ => "parsing card"
  | .recognized _ => "parsed card"
  | .accepted _ => "read card"

/-- The name of the detail of an event. -/
def detailName : Event → String
  | .understood _ => "args"
  | .reading _ => "input"
  | .recognized _ | .accepted _ => "card"

variable [Text.Repertoire]

/-- The detail of an event. -/
def detail : Event → String
  | .understood command => command.outline
  | .reading text => text
  | .recognized card | .accepted card => card.text

/-- The detail of an event as it is written down. -/
def shownDetail : Event → String
  | .reading text => Text.quoted text
  | event => event.detail

/-- An event as one line of the log. What a line has around this is left out: the time in front of it, the spaces
that bring levels to one width, and the colors of a terminal. -/
def line (event : Event) : String :=
  event.level.text ++ " " ++ event.source ++ ": " ++ event.message ++ " " ++ event.detailName ++ "=" ++
    event.shownDetail

end Event

/-- The lines of those events that are written down, in the order in which they happened. -/
def Verbosity.log [Text.Repertoire] (verbosity : Verbosity) (events : List Event) : List String :=
  (events.filter fun event => verbosity.keeps event.level).map Event.line

end Uno
