import Uno.Event
import Uno.Proofs.Card.RoundTrip
import Uno.Proofs.Command.Outline

/-!
# Lines of the log

An event is written down as a heading that depends on its kind only, and a detail. The headings are constant texts,
and no two of them agree in their first letters, so a line tells what kind of event it is about. What comes from
outside stands in quotes in the detail, and what does not is the text of a card. No text from outside can therefore
make the line of one event look like that of another, or end it early.

## Main results

* `Event.line_understood`, `Event.line_reading`, `Event.line_recognized`, `Event.line_accepted` — the four kinds of line
* `Event.line_injective` — a line is that of one event only
* `Event.controlFree_line` — no control is left in a line
-/

namespace Uno

open Text (ControlFree)

theorem Text.Printable.controlFree {text : String} (printable : Printable text) : ControlFree text := by
  intro c member control
  have visible := printable c member
  rcases control with below | delete
  · omega
  · omega

namespace Event

variable [Text.Repertoire]

theorem line_understood (command : Command) :
    (understood command).line = "DEBUG unocard_cli: parsed arguments args=" ++ command.outline := rfl

theorem line_reading (text : String) :
    (reading text).line = "TRACE unocard::card: parsing card input=" ++ Text.quoted text := rfl

theorem line_recognized (card : Card) :
    (recognized card).line = "DEBUG unocard::card: parsed card card=" ++ card.text := rfl

theorem line_accepted (card : Card) :
    (accepted card).line = "INFO unocard_cli::commands::show: read card card=" ++ card.text := rfl

/-- A line is that of one event only. -/
theorem line_injective : Function.Injective line := by
  intro event event' same
  rw [← String.toList_inj] at same
  cases event <;> cases event' <;>
    simp only [line_understood, line_reading, line_recognized, line_accepted, String.toList_append] at same
  case understood.understood =>
    rw [Command.outline_injective (String.toList_inj.mp (List.append_cancel_left same))]
  case reading.reading =>
    rw [Text.quoted_injective (String.toList_inj.mp (List.append_cancel_left same))]
  case recognized.recognized =>
    rw [Card.text_injective (String.toList_inj.mp (List.append_cancel_left same))]
  case accepted.accepted =>
    rw [Card.text_injective (String.toList_inj.mp (List.append_cancel_left same))]
  -- Events of two kinds have two headings, which are compared letter by letter.
  all_goals
    rw [String.toList_ofList, String.toList_ofList] at same
    simp at same

/-- No control is left in a line. -/
theorem controlFree_line (event : Event) : ControlFree event.line := by
  cases event with
  | understood command =>
    rw [line_understood, Text.controlFree_append_iff]
    exact ⟨Text.controlFree_ofList (by decide), command.controlFree_outline⟩
  | reading text =>
    rw [line_reading, Text.controlFree_append_iff]
    exact ⟨Text.controlFree_ofList (by decide), Text.controlFree_quoted text⟩
  | recognized card =>
    rw [line_recognized, Text.controlFree_append_iff]
    exact ⟨Text.controlFree_ofList (by decide), card.printable_text.controlFree⟩
  | accepted card =>
    rw [line_accepted, Text.controlFree_append_iff]
    exact ⟨Text.controlFree_ofList (by decide), card.printable_text.controlFree⟩

/-- A line has no line feed in it. -/
theorem newline_not_mem_line (event : Event) : '\n' ∉ event.line.toList := by
  intro member
  exact event.controlFree_line '\n' member (by decide)

end Event

end Uno
