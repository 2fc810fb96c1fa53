/-!
# Structural notation

A value built from named constructors is shown by its structure. A constructor with one argument is written as
its name and the argument in parentheses, a record as its name and its fields in braces, a list in brackets;
a constructor without arguments is its name alone. There are two layouts. The compact layout keeps everything
on one line. The indented layout opens a new level of four spaces for every bracket and gives each item a line
of its own, which ends in a comma.

The notation is put together from the inside out. Items are texts that have been laid out already, and a level
of indentation moves every line of an item to the right.

## Main definitions

* `Text.Layout` — the two layouts
* `Text.indent` — a text with every line moved to the right by one level
* `Layout.block` — items between two brackets
* `Layout.call`, `Layout.record`, `Layout.optional`, `Layout.list` — the bracketed forms
-/

namespace Uno.Text

/-- How a structure is spread over lines. -/
inductive Layout
  /-- All on one line. -/
  | compact
  /-- Each item on a line of its own. -/
  | indented
  deriving DecidableEq, Repr

/-- The spaces of one level of indentation. -/
def margin : List Char :=
  [' ', ' ', ' ', ' ']

/-- The characters of a text with every line moved to the right by one level. -/
def indentChars (cs : List Char) : List Char :=
  margin ++ cs.flatMap fun c => if c = '\n' then '\n' :: margin else [c]

/-- A text with every line moved to the right by one level. -/
def indent (text : String) : String :=
  String.ofList (indentChars text.toList)

namespace Layout

/-- Items between an opening and a closing bracket. In the compact layout a `gap` keeps the items off the
brackets, in the indented layout the line breaks do. -/
def block (layout : Layout) (opening gap : String) (items : List String) (closing : String) :
    String :=
  match layout with
  | .compact => opening ++ gap ++ ", ".intercalate items ++ gap ++ closing
  | .indented =>
    opening ++ "\n" ++ String.join (items.map fun item => indent item ++ ",\n") ++ closing

/-- A constructor with one argument. -/
def call (layout : Layout) (name argument : String) : String :=
  layout.block (name ++ "(") "" [argument] ")"

/-- A record with its fields, each given by name and value. -/
def record (layout : Layout) (name : String) (fields : List (String × String)) : String :=
  layout.block (name ++ " \x7b") " " (fields.map fun (field, value) => field ++ ": " ++ value) "\x7d"

/-- Something that may be missing. -/
def optional (layout : Layout) : Option String → String
  | none => "None"
  | some item => layout.call "Some" item

/-- A list of items. An empty list has nothing between its brackets in either layout. -/
def list (layout : Layout) (items : List String) : String :=
  if items.isEmpty then "[]" else layout.block "[" "" items "]"

end Layout

end Uno.Text
