import Uno.Text.Blank
import Uno.Text.Words
import Uno.Text.LetterCase
import Uno.Text.Numeral
import Uno.Text.Quoted
import Uno.Text.Slot
import Uno.Text.Layout
import Uno.Color
import Uno.Color.Enumerator
import Uno.Color.Walk
import Uno.Action
import Uno.Value
import Uno.Card
import Uno.CardError
import Uno.Card.Reader
import Uno.Card.Outline
import Uno.Card.Format
import Uno.Entry
import Uno.Command
import Uno.Command.Page
import Uno.Command.Scan
import Uno.Level
import Uno.Event
import Uno.Reading
import Uno.Hand
import Uno.Program
import Uno.Main
import Uno.Proofs.Text.Words
import Uno.Proofs.Text.Spacing
import Uno.Proofs.Text.LetterCase
import Uno.Proofs.Text.Numeral
import Uno.Proofs.Text.Quoted
import Uno.Proofs.Text.Layout
import Uno.Proofs.Text.Slot
import Uno.Proofs.Color.Walk
import Uno.Proofs.Color.Enumerator
import Uno.Proofs.Tag
import Uno.Proofs.Value
import Uno.Proofs.Card.Spelling
import Uno.Proofs.Entry.Segmentation
import Uno.Proofs.Entry
import Uno.Proofs.Card.RoundTrip
import Uno.Proofs.Card.Canonical
import Uno.Proofs.Card.Grammar
import Uno.Proofs.Card.Refusal
import Uno.Proofs.Card.Outline
import Uno.Proofs.Card.Format
import Uno.Proofs.Reading.Step
import Uno.Proofs.Reading.Spelling
import Uno.Proofs.Reading.Automaton
import Uno.Proofs.Reading.Single
import Uno.Proofs.Reading.Append
import Uno.Proofs.Reading.Respelling
import Uno.Proofs.Reading.RoundTrip
import Uno.Proofs.Reading.Edit
import Uno.Proofs.Reading.Events
import Uno.Proofs.Command.Scan
import Uno.Proofs.Command.Outline
import Uno.Proofs.Text.Lines
import Uno.Proofs.Program.Show
import Uno.Proofs.Program.Run
import Uno.Proofs.Program.Status
import Uno.Proofs.Event
import Uno.Proofs.Program.Visible
import Uno.Proofs.Level
import Uno.Proofs.Program.Log
import Uno.Proofs.Hand.Step
import Uno.Proofs.Hand.Display
import Uno.Proofs.Hand.Run
import Uno.Proofs.Color.Enumerator
