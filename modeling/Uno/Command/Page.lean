/-!
# Help pages

There is an overview of the program and a page for each word that can stand in command position, the word
`help` among them.

## Main definitions

* `Command.Page` — the four pages
* `Page.lines`, `Page.text` — their contents
-/

namespace Uno.Command

/-- A page of help. -/
inductive Page
  | overview
  | show
  | colors
  | help
  deriving DecidableEq, Repr

namespace Page

/-- The lines of a page. -/
def lines : Page → List String
  | .overview =>
    ["Inspect UNO cards written as `COLOR [VALUE]` tags",
      "",
      "Usage: unocard-cli <COMMAND>",
      "",
      "Commands:",
      "  show    Parse each card and print its color and value",
      "  colors  List the card colors",
      "  help    Print this message or the help of the given subcommand(s)",
      "",
      "Options:",
      "  -h, --help  Print help"]
  | .show =>
    ["Parse each card and print its color and value",
      "",
      "Usage: unocard-cli show <CARDS>...",
      "",
      "Arguments:",
      "  <CARDS>...  Cards such as `RED 7`, `BLUE SKIP`, `WILD` or `WILD4+`, quoted or not",
      "",
      "Options:",
      "  -h, --help  Print help"]
  | .colors =>
    ["List the card colors",
      "",
      "Usage: unocard-cli colors",
      "",
      "Options:",
      "  -h, --help  Print help"]
  | .help =>
    ["Print this message or the help of the given subcommand(s)",
      "",
      "Usage: unocard-cli help [COMMAND]...",
      "",
      "Arguments:",
      "  [COMMAND]...  Print help for the subcommand(s)"]

/-- The text of a page: its lines, each ended. -/
def text (page : Page) : String :=
  String.join (page.lines.map (· ++ "\n"))

end Page

end Uno.Command
