import Uno.Card.Reader
import Uno.Entry
import Uno.Event

/-!
# Reading the cards of a command line

The entries of a command line are read one after the other. The first entry that is not a card ends the
reading: no later entry is looked at, and the cards before it are given up. A reading is both its outcome and
the events that led to it.

## Main definitions

* `Unreadable` — an entry that is not a card, and why
* `Card.readEvents` — the events of reading one text
* `Reading` — events and outcome of reading a command line
* `Reading.ofEntries`, `Reading.ofArguments` — the reading of entries, and of arguments
* `Reading.lines` — the descriptive lines of the cards

## Main results

* `Reading.ofEntries_cons_ok`, `Reading.ofEntries_cons_error` — a card is noted and the reading goes on; a
  fault ends it
-/

namespace Uno

/-- An entry that is not a card, and why it is none. -/
structure Unreadable where
  entry : String
  fault : CardError
  deriving DecidableEq, Repr

namespace Unreadable

/-- The sentence that is shown. -/
def message (failure : Unreadable) : String :=
  "Could not read `" ++ failure.entry ++ "` as a card"

/-- The sentences from the failure down to its cause. -/
def causes (failure : Unreadable) : List String :=
  [failure.message, failure.fault.message]

end Unreadable

/-- The events of reading one text as a card: a beginning, and an end if it succeeds. -/
def Card.readEvents (text : String) : List Event :=
  match Card.read text with
  | .ok card => [.reading text, .recognized card]
  | .error _ => [.reading text]

/-- What comes of reading a command line. -/
structure Reading where
  /-- What happened, in order. -/
  events : List Event
  /-- The cards, or the first entry that is not a card. -/
  outcome : Except Unreadable (List Card)

namespace Reading

/-- The reading of entries, from left to right. -/
def ofEntries : List Entry → Reading
  | [] => ⟨[], .ok []⟩
  | entry :: entries =>
    match Card.read entry.text with
    | .ok card =>
      let later := ofEntries entries
      ⟨Card.readEvents entry.text ++ .accepted card :: later.events, later.outcome.map (card :: ·)⟩
    | .error fault => ⟨Card.readEvents entry.text, .error ⟨entry.text, fault⟩⟩

/-- The reading of command-line arguments. -/
def ofArguments (arguments : List String) : Reading :=
  ofEntries (Entry.ofArguments arguments)

/-- The descriptive lines of the cards, if all could be read. -/
def lines (reading : Reading) : Except Unreadable (List String) :=
  reading.outcome.map (List.map Card.line)

/-- A card is noted, and the reading goes on. -/
theorem ofEntries_cons_ok {entry : Entry} {entries : List Entry} {card : Card}
    (isCard : Card.read entry.text = .ok card) :
    ofEntries (entry :: entries) =
      ⟨.reading entry.text :: .recognized card :: .accepted card :: (ofEntries entries).events,
        (ofEntries entries).outcome.map (card :: ·)⟩ := by
  simp [ofEntries, isCard, Card.readEvents]

/-- A fault ends the reading. -/
theorem ofEntries_cons_error {entry : Entry} {entries : List Entry} {fault : CardError}
    (notCard : Card.read entry.text = .error fault) :
    ofEntries (entry :: entries) = ⟨[.reading entry.text], .error ⟨entry.text, fault⟩⟩ := by
  simp [ofEntries, notCard, Card.readEvents]

end Reading

end Uno
