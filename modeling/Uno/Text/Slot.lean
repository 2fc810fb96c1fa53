/-!
# Slots

A text may be set into a slot of a given width. First it is cut to the precision, the greatest number of
characters that the slot admits, if there is one; then it is filled up to the width. A text that is longer
than the width keeps its length. Filling with zeros and showing a sign are wishes about numbers: a text does
not follow them and is set as if nothing had been asked for.

## Main definitions

* `Text.FillStyle` — what a slot asks for
* `Text.Slot` — a style, a width and perhaps a precision
* `Slot.cut`, `Slot.fill` — the two steps
* `Slot.set` — a text set into a slot

## Main results

* `Slot.length_fill` — filling reaches the width exactly or leaves the length alone
* `Slot.length_cut` — cutting leaves at most as many characters as the precision
-/

namespace Uno.Text

/-- How a slot asks to be filled. -/
inductive FillStyle
  /-- Nothing is asked for. -/
  | plain
  /-- The text at the left end, spaces after it. -/
  | left
  /-- The text at the right end, spaces before it. -/
  | right
  /-- The text in the middle between stars; an odd star goes to the right. -/
  | starred
  /-- Zeros in front, which only a number follows. -/
  | zeros
  /-- A sign in front, which only a number follows. -/
  | signed
  deriving DecidableEq, Repr

/-- A slot that a text can be set into. -/
structure Slot where
  /-- How the slot is filled. -/
  style : FillStyle
  /-- The least number of characters. -/
  width : Nat
  /-- The greatest number of characters taken from the text, if there is a bound. -/
  precision : Option Nat
  deriving DecidableEq, Repr

namespace Slot

/-- The characters that the slot admits. -/
def cut (slot : Slot) (cs : List Char) : List Char :=
  match slot.precision with
  | none => cs
  | some bound => cs.take bound

/-- The characters filled up to the width of the slot. -/
def fill (slot : Slot) (cs : List Char) : List Char :=
  let missing := slot.width - cs.length
  match slot.style with
  | .right => List.replicate missing ' ' ++ cs
  | .starred =>
    List.replicate (missing / 2) '*' ++ cs ++ List.replicate (missing - missing / 2) '*'
  | .plain | .left | .zeros | .signed => cs ++ List.replicate missing ' '

/-- A text set into a slot: cut to the precision, then filled up to the width. -/
def set (slot : Slot) (text : String) : String :=
  String.ofList (slot.fill (slot.cut text.toList))

/-- Cutting leaves the characters up to the precision. -/
theorem length_cut (slot : Slot) (cs : List Char) :
    (slot.cut cs).length = match slot.precision with
      | none => cs.length
      | some bound => min bound cs.length := by
  unfold cut
  split <;> simp

/-- Filling reaches the width exactly, or leaves the length alone. -/
theorem length_fill (slot : Slot) (cs : List Char) :
    (slot.fill cs).length = max slot.width cs.length := by
  unfold fill
  split <;> simp <;> omega

end Slot

end Uno.Text
