import Uno.Proofs.Entry
import Uno.Reading

/-!
# The steps of a reading

The reading of a command line is determined by its words. Word by word, there are four things that can happen.
A color tag in front of another color tag or at the end is a card without a value. A color tag and a value tag
are a card with that value. Any other word behind a color tag is refused as a value, and a word that is no
color tag is refused as a color where a color is due. In the first two cases the reading goes on with the
remaining words, in the last two it ends. Whatever is proved about readings is proved by these four equations.

## Main definitions

* `Reading.ofWords` — the reading of a sequence of words
* `Reading.note`, `Reading.refusal` — the reading that goes on behind a card, and the one that ends
* `Entry.opened` — the text of the entry that a word opens

## Main results

* `Reading.ofWords_cons_plain`, `Reading.ofWords_cons_valued` — the steps that go on
* `Reading.ofWords_cons_noValue`, `Reading.ofWords_cons_noColor` — the steps that end the reading
* `Reading.words_induction` — the four steps as a principle of induction
-/

namespace Uno

open Text (IsWord)

/-- The text of the entry that a word opens in front of further words. The next word belongs to it unless that
is a color tag. -/
def Entry.opened (word : String) : List String → String
  | [] => word
  | next :: _ => if Color.isTag next then word else word ++ " " ++ next

namespace Reading

/-- The reading of a sequence of words. -/
def ofWords (ws : List String) : Reading :=
  ofEntries (Entry.ofWords ws)

/-- A command line is read by its words. -/
theorem ofArguments_eq_ofWords (arguments : List String) :
    ofArguments arguments = ofWords (arguments.flatMap Text.words) := rfl

/-- The reading that has read a card from a text and goes on. -/
def note (text : String) (card : Card) (later : Reading) : Reading :=
  ⟨.reading text :: .recognized card :: .accepted card :: later.events, later.outcome.map (card :: ·)⟩

/-- The reading that ends with a text that is no card. -/
def refusal (text : String) (fault : CardError) : Reading :=
  ⟨[.reading text], .error ⟨text, fault⟩⟩

@[simp] theorem lines_refusal (text : String) (fault : CardError) :
    (refusal text fault).lines = .error ⟨text, fault⟩ := rfl

@[simp] theorem lines_note (text : String) (card : Card) (later : Reading) :
    (note text card later).lines = later.lines.map (card.line :: ·) := by
  unfold lines note
  cases later.outcome with
  | ok cards => rfl
  | error failure => rfl

/-- A reading that has read a card succeeds if it goes on to succeed. -/
theorem outcome_note_eq_ok_iff {text : String} {card : Card} {later : Reading} {cards : List Card} :
    (note text card later).outcome = .ok cards ↔
      ∃ others, later.outcome = .ok others ∧ cards = card :: others := by
  unfold note
  cases later.outcome with
  | ok others => simp [Except.map, eq_comm]
  | error failure => simp [Except.map]

theorem outcome_note_of_error {text : String} {card : Card} {later : Reading} {failure : Unreadable}
    (failed : later.outcome = .error failure) : (note text card later).outcome = .error failure := by
  rw [note, failed]
  rfl

theorem lines_eq_ok_iff {reading : Reading} {lines : List String} :
    reading.lines = .ok lines ↔ ∃ cards, reading.outcome = .ok cards ∧ cards.map Card.line = lines := by
  unfold Reading.lines
  cases reading.outcome with
  | ok cards => simp [Except.map]
  | error failure => simp [Except.map]

theorem lines_eq_error_iff {reading : Reading} {failure : Unreadable} :
    reading.lines = .error failure ↔ reading.outcome = .error failure := by
  unfold Reading.lines
  cases reading.outcome with
  | ok cards => simp [Except.map]
  | error failure => simp [Except.map]

/-! ### One entry -/

variable {entry : Entry} {card : Card} {fault : CardError}

/-- An entry that spells a card is noted. -/
theorem ofEntries_cons_of_spelled (spelled : Card.Spelled entry card) (entries : List Entry) :
    ofEntries (entry :: entries) = note entry.text card (ofEntries entries) :=
  ofEntries_cons_ok ((Entry.read_text spelled.isWord).trans spelled.ofWords_eq)

/-- An entry that spells no card is refused, and no later entry counts. -/
theorem ofEntries_cons_of_refused (allWords : ∀ word ∈ entry, IsWord word)
    (refused : Card.Refused entry fault) (entries : List Entry) :
    ofEntries (entry :: entries) = refusal entry.text fault :=
  ofEntries_cons_error ((Entry.read_text allWords).trans refused.ofWords_eq)

/-! ### The four steps -/

variable {tag word valueTag : String} {rest : List String} {color : Color} {value : Value}

/-- A color tag that no value can follow is a card without a value. -/
theorem ofWords_cons_plain (isColor : Color.read tag = .ok color)
    (closed : ∀ next ∈ rest.head?, Color.isTag next = true) :
    ofWords (tag :: rest) = note tag ⟨color, none⟩ (ofWords rest) := by
  have step := ofEntries_cons_of_spelled (.plain isColor) (Entry.ofWords rest)
  rw [Entry.text_singleton] at step
  cases rest with
  | nil => exact step
  | cons next others =>
    rw [ofWords, Entry.ofWords_cons_tag (closed next rfl)]
    exact step

/-- A color tag and a value tag are a card with that value. -/
theorem ofWords_cons_valued (isColor : Color.read tag = .ok color)
    (isValue : Value.read valueTag = .ok value) :
    ofWords (tag :: valueTag :: rest) =
      note (tag ++ " " ++ valueTag) ⟨color, some value⟩ (ofWords rest) := by
  have step := ofEntries_cons_of_spelled (.valued isColor isValue) (Entry.ofWords rest)
  rw [Entry.text_pair] at step
  rw [ofWords, Entry.ofWords_cons_cons (Color.isTag_of_read_value isValue)]
  exact step

/-- A word behind a color tag that is neither a color tag nor a value tag is refused as a value. -/
theorem ofWords_cons_noValue (isColor : Color.read tag = .ok color) (isWord : IsWord word)
    (notTag : Color.isTag word = false) (notValue : Value.read word = .error (.unknownValue word)) :
    ofWords (tag :: word :: rest) = refusal (tag ++ " " ++ word) (.unknownValue word) := by
  have allWords : ∀ w ∈ [tag, word], IsWord w := by
    simpa using And.intro (Color.isWord_of_read isColor) isWord
  have step := ofEntries_cons_of_refused allWords (.value isColor notValue) (Entry.ofWords rest)
  rw [Entry.text_pair] at step
  rw [ofWords, Entry.ofWords_cons_cons notTag]
  exact step

/-- A word that is no color tag is refused where a color is due, whatever the entry that it opens. -/
theorem ofWords_cons_noColor (allWords : ∀ w ∈ word :: rest, IsWord w)
    (notTag : Color.isTag word = false) :
    ofWords (word :: rest) = refusal (Entry.opened word rest) (.unknownColor word) := by
  rw [List.forall_mem_cons] at allWords
  have alone : ∀ w ∈ [word], IsWord w := by simpa using allWords.1
  cases rest with
  | nil =>
    have step := ofEntries_cons_of_refused alone (.color notTag) []
    rwa [Entry.text_singleton] at step
  | cons next others =>
    rw [ofWords, Entry.opened]
    by_cases opens : Color.isTag next = true
    · rw [Entry.ofWords_cons_tag opens, ofEntries_cons_of_refused alone (.color notTag), if_pos opens,
        Entry.text_singleton]
    · have joins : Color.isTag next = false := by simpa using opens
      have both : ∀ w ∈ [word, next], IsWord w := by
        simpa using And.intro allWords.1 (allWords.2 next List.mem_cons_self)
      rw [Entry.ofWords_cons_cons joins, ofEntries_cons_of_refused both (.color notTag), if_neg opens,
        Entry.text_pair]

/-- Induction along a reading. One of the four steps applies to each sequence of words, and two of them leave
a shorter sequence. -/
@[elab_as_elim]
theorem words_induction {motive : List String → Prop} (nil : motive [])
    (noColor : ∀ word rest, Color.isTag word = false → motive (word :: rest))
    (noValue : ∀ tag word rest color, Color.read tag = .ok color → Color.isTag word = false →
      Value.read word = .error (.unknownValue word) → motive (tag :: word :: rest))
    (plain : ∀ tag rest color, Color.read tag = .ok color →
      (∀ next ∈ rest.head?, Color.isTag next = true) → motive rest → motive (tag :: rest))
    (valued : ∀ tag valueTag rest color value, Color.read tag = .ok color →
      Value.read valueTag = .ok value → motive rest → motive (tag :: valueTag :: rest))
    (ws : List String) : motive ws := by
  -- The cases are those of the entries, so the induction is the one of `Entry.ofWords`.
  fun_induction Entry.ofWords ws with
  | case1 => exact nil
  | case2 tag =>
    cases isTag : Color.isTag tag with
    | false => exact noColor tag [] isTag
    | true =>
      obtain ⟨color, isColor⟩ := Color.isTag_iff.mp isTag
      refine plain tag [] color isColor ?_ nil
      intro next first
      contradiction
  | case3 tag second rest opens ih =>
    cases isTag : Color.isTag tag with
    | false => exact noColor tag _ isTag
    | true =>
      obtain ⟨color, isColor⟩ := Color.isTag_iff.mp isTag
      refine plain tag _ color isColor ?_ ih
      intro next first
      obtain rfl := Option.mem_some_iff.mp first
      exact opens
  | case4 tag second rest joins ih =>
    cases isTag : Color.isTag tag with
    | false => exact noColor tag _ isTag
    | true =>
      obtain ⟨color, isColor⟩ := Color.isTag_iff.mp isTag
      rcases Value.read_eq_ok_or second with ⟨value, isValue⟩ | notValue
      · exact valued tag second rest color value isColor isValue ih
      · exact noValue tag second rest color isColor (eq_false_of_ne_true joins) notValue

end Reading

end Uno
