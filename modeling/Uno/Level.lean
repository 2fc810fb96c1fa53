import Uno.Text.LetterCase

/-!
# Levels of the log

Every event has a level, from errors, which matter most, to traces, which matter least. A verbosity is the
least level that still counts; at `off` nothing does. A setting names a verbosity in any mixture of capital
and small letters. Without a setting, or with one that cannot be read, warnings and errors count.

A setting is the name of one verbosity here. Settings of another form, such as numbers or a verbosity for one part
of the program only, are left out: they count as settings that cannot be read.

## Main definitions

* `Level`, `Level.rank` — the five levels, and how little each of them matters
* `Verbosity`, `Verbosity.keeps` — how much is written down
* `Verbosity.ofName?`, `Verbosity.ofSetting` — the verbosity that a setting names
-/

namespace Uno

/-- How much an event matters. -/
inductive Level
  | error
  | warn
  | info
  | debug
  | trace
  deriving DecidableEq, Repr

namespace Level

/-- The levels, the most severe first. -/
def all : List Level :=
  [.error, .warn, .info, .debug, .trace]

/-- The place of a level in the order of severity, the most severe first. -/
def rank : Level → Nat
  | .error => 0
  | .warn => 1
  | .info => 2
  | .debug => 3
  | .trace => 4

/-- The name of a level. -/
def text : Level → String
  | .error => "ERROR"
  | .warn => "WARN"
  | .info => "INFO"
  | .debug => "DEBUG"
  | .trace => "TRACE"

end Level

/-- How much of what happens is written down. -/
inductive Verbosity
  /-- Nothing is. -/
  | off
  /-- Whatever has this level or a more severe one. -/
  | upTo (level : Level)
  deriving DecidableEq, Repr

namespace Verbosity

/-- An event of a level is written down. -/
def keeps : Verbosity → Level → Bool
  | .off, _ => false
  | .upTo bound, level => level.rank ≤ bound.rank

/-- The verbosity without a setting. -/
def standard : Verbosity :=
  .upTo .warn

/-- The verbosity of a name. -/
def ofName? (name : String) : Option Verbosity :=
  if Text.sameLetters name "OFF" then some .off
  else (Level.all.find? fun level => Text.sameLetters name level.text).map .upTo

/-- The verbosity of a setting, which may be absent. -/
def ofSetting : Option String → Verbosity
  | none => standard
  | some name => (ofName? name).getD standard

end Verbosity

end Uno
