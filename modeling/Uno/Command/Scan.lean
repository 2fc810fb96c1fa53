import Uno.Command
import Uno.Command.Page

/-!
# Scanning the command line

The program declares its two commands to a library for command lines, and the library does the scanning. It is not
part of what is described here. `Command.scan` stands for it: it is what the library is assumed to do with these
declarations, and whatever is shown of command lines is shown under the following rules.

* **Order.** Words are scanned from left to right, and the first word that decides the matter ends the scan.
* **Commands.** The first word names the command, letter for letter. `help` is a command that comes with the library.
* **Options.** A word that begins with a dash and goes on behind it is an option, and the only option is the request
  for help. With two dashes in front, an option is a name up to the first equals sign, behind which it may carry a
  value; a request for help carries none. With one dash in front, an option is a row of letters, and as the only
  known letter asks for help, the first letter decides. A dash alone is an ordinary word.
* **End of the options.** After `show`, words are cards, until the word `--` ends the options: everything behind it
  is a card whatever it looks like. The words themselves are never changed.
* **Nothing missing, nothing left.** `show` needs a card, `colors` takes no word but a final `--`, and `help` takes one
  topic at most.

## Main definitions

* `Command.Stop` — why a scan ends without a command
* `Command.isOption`, `Command.stopAt` — options, and what they lead to
* `Command.scanCards` — the cards after `show`
* `Command.scan` — the command of a command line
* `Stop.exitCode`, `Stop.stdout` — what the program does instead of a command

## Main results

* `Command.scanCards_dashes` — nothing behind `--` is looked at
-/

namespace Uno.Command

/-- Why a scan ends without a command. -/
inductive Stop
  /-- A page of help is asked for. -/
  | help (page : Page)
  /-- There is no word to scan. -/
  | nothingGiven
  /-- A word stands where no such word is known. -/
  | unknownArgument
  /-- A request for help carries a value. -/
  | unexpectedValue
  /-- A word in command position names no command. -/
  | unknownCommand
  /-- There is no card to show. -/
  | noCards
  deriving DecidableEq, Repr

/-- The exit status of a program that stops: help is a success, all else a mistake in usage. -/
def Stop.exitCode : Stop → Nat
  | .help _ => 0
  | .nothingGiven | .unknownArgument | .unexpectedValue | .unknownCommand | .noCards => 2

/-- What a program that stops prints: the page that was asked for. -/
def Stop.stdout : Stop → String
  | .help page => page.text
  | .nothingGiven | .unknownArgument | .unexpectedValue | .unknownCommand | .noCards => ""

/-! ### Options -/

/-- A word is an option when it begins with a dash and goes on behind it. -/
def isOption (word : String) : Bool :=
  match word.toList with
  | '-' :: _ :: _ => true
  | _ => false

/-- What a word leads to where only options have a meaning and `page` is the help to be had. -/
def stopAt (page : Page) (word : String) : Stop :=
  match word.toList with
  | '-' :: '-' :: long =>
    if long.takeWhile (· != '=') = ['h', 'e', 'l', 'p'] then
      if '=' ∈ long then .unexpectedValue else .help page
    else .unknownArgument
  | '-' :: 'h' :: _ => .help page
  | _ => .unknownArgument

/-! ### Commands -/

/-- The words that name a command. -/
def names : List String :=
  ["show", "colors", "help"]

/-- The cards among the words after `show`. -/
def scanCards : List String → Except Stop (List String)
  | [] => .ok []
  | word :: words =>
    if word = "--" then .ok words
    else if isOption word then .error (stopAt .show word)
    else (scanCards words).map (word :: ·)

/-- The command `show` with the words after it, of which at least one has to be a card. -/
def scanShow (words : List String) : Except Stop Command :=
  match scanCards words with
  | .error stop => .error stop
  | .ok [] => .error .noCards
  | .ok (card :: cards) => .ok (.show (card :: cards))

/-- The command `colors` with the words after it, of which there can be none but a final `--`. -/
def scanColors : List String → Except Stop Command
  | [] => .ok .colors
  | word :: words =>
    if word = "--" ∧ words = [] then .ok .colors else .error (stopAt .colors word)

/-- What the words after `help` lead to: the page of a topic, of which there can be one at most. -/
def stopAtTopic : List String → Stop
  | [] => .help .overview
  | ["show"] => .help .show
  | ["colors"] => .help .colors
  | ["help"] => .help .help
  | _ => .unknownCommand

/-- What a `--` in command position leads to. The name of a command is out of place behind it, and any other
word is none anyway. -/
def stopBehindDashes : List String → Stop
  | [] => .nothingGiven
  | word :: _ => if word ∈ names then .unknownArgument else .unknownCommand

/-- The command that a command line asks for. -/
def scan : List String → Except Stop Command
  | [] => .error .nothingGiven
  | word :: words =>
    if word = "show" then scanShow words
    else if word = "colors" then scanColors words
    else if word = "help" then .error (stopAtTopic words)
    else if word = "--" then .error (stopBehindDashes words)
    else if isOption word then .error (stopAt .overview word)
    else .error .unknownCommand

/-- Nothing behind `--` is looked at. -/
@[simp] theorem scanCards_dashes (words : List String) : scanCards ("--" :: words) = .ok words := by
  simp [scanCards]

end Uno.Command
