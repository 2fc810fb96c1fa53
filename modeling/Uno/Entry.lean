import Uno.Color
import Uno.Text.Words

/-!
# Entries

Cards on a command line may be quoted or not: `RED 7` can come as one argument or as two, and several cards can
share an argument. The arguments are therefore taken apart into words first, and the words are put together
again into entries, each of which is to be read as one card. An entry has a word, which should be a color, and
perhaps a second one, which should be a value. A color tag always opens an entry, as does any word that finds
none open: at the start, and after an entry of two words. Any other word joins the entry that is open. Whether
the words of an entry make a card is not asked here.

## Main definitions

* `Entry` — the words that are to be read as one card
* `Entry.ofWords` — the entries of a sequence of words
* `Entry.ofArguments` — the entries of command-line arguments

## Main results

* `Entry.ofWords_cons_tag` — a color tag in second place leaves the first word an entry of its own
* `Entry.ofWords_cons_cons` — any other second word closes the entry
-/

namespace Uno

/-- The words that are to be read as one card. -/
abbrev Entry := List String

namespace Entry

/-- The words of an entry, one space apart. -/
def text (entry : Entry) : String :=
  Text.joinWords entry

/-- The entries of a sequence of words, from left to right. -/
def ofWords : List String → List Entry
  | [] => []
  | [word] => [[word]]
  | first :: second :: rest =>
    if Color.isTag second then [first] :: ofWords (second :: rest)
    else [first, second] :: ofWords rest

/-- The entries of command-line arguments. Where one argument ends and the next begins plays no part. -/
def ofArguments (arguments : List String) : List Entry :=
  ofWords (arguments.flatMap Text.words)

/-- A color tag in second place leaves the first word an entry of its own. -/
theorem ofWords_cons_tag {first second : String} {rest : List String}
    (opens : Color.isTag second = true) :
    ofWords (first :: second :: rest) = [first] :: ofWords (second :: rest) := by
  rw [ofWords, if_pos opens]

/-- A second word that is no color tag closes the entry. -/
theorem ofWords_cons_cons {first second : String} {rest : List String}
    (joins : Color.isTag second = false) :
    ofWords (first :: second :: rest) = [first, second] :: ofWords rest := by
  rw [ofWords, if_neg (ne_true_of_eq_false joins)]

end Entry

end Uno
