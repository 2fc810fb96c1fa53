/-!
# Quoted text

Text from outside stands in double quotes wherever it is shown inside other text, with every character that
could end the quotes, break the line or steer a terminal written as an escape. A double quote and a backslash
get a backslash in front. Line feed, carriage return, tab and the null character have a letter or digit of
their own. Each other ASCII control, among them the delete character, is written by its code point in
hexadecimal without zeros in front. All other ASCII characters, also the single quote, stand as they are.

Outside ASCII, a character stands as it is if it can be seen by itself, and is written by its code point
otherwise. Which characters can be seen is laid down in tables of the Unicode standard that change with its
editions, and it makes no difference to whoever reads the quoted text; so it is left open here, as a repertoire.

## Main definitions

* `Text.Repertoire` — the characters outside ASCII that stand as they are
* `Text.escape` — the written form of one character
* `Text.quoted` — a text between double quotes, each character escaped

## Main results

* `Text.toList_quoted` — a quoted text is its escaped characters between two double quotes
-/

namespace Uno.Text

/-- The characters outside ASCII that stand in quotes as they are. What is said of ASCII characters has no effect. -/
class Repertoire where
  /-- The character can be seen by itself. -/
  shows : Char → Bool

/-- The repertoire of the program that runs: it shows whatever lies outside ASCII. -/
instance : Repertoire where
  shows _ := true

variable [Repertoire]

/-- The written form of a character inside double quotes. -/
def escape (c : Char) : List Char :=
  match c with
  | '"' => ['\\', '"']
  | '\\' => ['\\', '\\']
  | '\n' => ['\\', 'n']
  | '\r' => ['\\', 'r']
  | '\t' => ['\\', 't']
  | '\x00' => ['\\', '0']
  | _ =>
    if c.toNat < 0x20 || c.toNat == 0x7F || (0x7F < c.toNat && !Repertoire.shows c) then
      ['\\', 'u', '\x7b'] ++ Nat.toDigits 16 c.toNat ++ ['\x7d']
    else
      [c]

/-- A text between double quotes. -/
def quoted (text : String) : String :=
  String.ofList ('"' :: text.toList.flatMap escape ++ ['"'])

@[simp] theorem toList_quoted (text : String) :
    (quoted text).toList = '"' :: text.toList.flatMap escape ++ ['"'] := by
  simp [quoted]

end Uno.Text
