import Uno.Proofs.Reading.Step

/-!
# Command lines, one behind the other

Two command lines can be joined to one. If a card ends where they meet, the joined line is read like the first and
then like the second. Otherwise the first word of the second line is the value of the last color of the first. A
failure of the first line stays, since nothing behind it is looked at; but its message can change, as the entry
that it shows can grow by one word.

## Main definitions

* `Reading.andThen` — a reading that goes on with another one
* `Reading.StopsAt` — the entry at which a reading fails

## Main results

* `Reading.ofEntries_append` — the reading of entries, followed by more entries
* `Reading.StopsAt.lines_eq`, `Reading.exists_stopsAt` — a reading that fails does so at one of its entries
* `Reading.lines_append` — the outcome of two command lines, one behind the other
-/

namespace Uno.Reading

open Text (IsWord)

/-! ### One reading behind the other -/

/-- The reading that goes on with another one if it has succeeded. -/
def andThen (first later : Reading) : Reading :=
  match first.outcome with
  | .ok cards => ⟨first.events ++ later.events, later.outcome.map (cards ++ ·)⟩
  | .error _ => first

variable {first later : Reading} {entries earlier more : List Entry} {entry : Entry} {fault : CardError}

theorem outcome_andThen_of_ok {cards : List Card} (success : first.outcome = .ok cards) :
    (first.andThen later).outcome = later.outcome.map (cards ++ ·) := by
  rw [andThen, success]

theorem lines_andThen_of_ok {lines : List String} (success : first.lines = .ok lines) :
    (first.andThen later).lines = later.lines.map (lines ++ ·) := by
  obtain ⟨cards, isRead, rfl⟩ := lines_eq_ok_iff.mp success
  rw [Reading.lines, Reading.lines, outcome_andThen_of_ok isRead]
  cases later.outcome with
  | ok others => simp [Except.map]
  | error failure => rfl

theorem lines_andThen_of_error {failure : Unreadable} (failed : first.lines = .error failure) :
    (first.andThen later).lines = .error failure := by
  have stopped := lines_eq_error_iff.mp failed
  simp only [andThen, stopped, failed]

theorem andThen_of_outcome_nil (later : Reading) : andThen ⟨[], .ok []⟩ later = later := by
  obtain ⟨events, outcome⟩ := later
  cases outcome <;> rfl

theorem note_andThen (text : String) (card : Card) (first later : Reading) :
    (note text card first).andThen later = note text card (first.andThen later) := by
  obtain ⟨events, outcome⟩ := first
  obtain ⟨events', outcome'⟩ := later
  cases outcome <;> cases outcome' <;> rfl

/-- Entries are read one after the other, so more entries are read behind them. -/
theorem ofEntries_append (entries more : List Entry) :
    ofEntries (entries ++ more) = (ofEntries entries).andThen (ofEntries more) := by
  induction entries with
  | nil => exact (andThen_of_outcome_nil _).symm
  | cons entry entries ih =>
    rw [List.cons_append]
    cases isCard : Card.read entry.text with
    | ok card =>
      have noted := note_andThen entry.text card (ofEntries entries) (ofEntries more)
      rw [ofEntries_cons_ok isCard, ofEntries_cons_ok isCard, ih]
      exact noted.symm
    | error fault =>
      rw [ofEntries_cons_error isCard, ofEntries_cons_error isCard]
      rfl

/-! ### Where a reading stops -/

/-- The entry at which the reading of entries stops: those in front of it are cards, and it is none. -/
structure StopsAt (entries earlier : List Entry) (entry : Entry) (later : List Entry) (fault : CardError) :
    Prop where
  whole : entries = earlier ++ entry :: later
  readable : ∃ lines, (ofEntries earlier).lines = .ok lines
  refused : Card.read entry.text = .error fault

theorem lines_cons_ok {card : Card} (isCard : Card.read entry.text = .ok card) :
    (ofEntries (entry :: entries)).lines = (ofEntries entries).lines.map (card.line :: ·) :=
  (congrArg Reading.lines (ofEntries_cons_ok isCard)).trans (lines_note entry.text card _)

theorem lines_cons_error (notCard : Card.read entry.text = .error fault) :
    (ofEntries (entry :: entries)).lines = .error ⟨entry.text, fault⟩ :=
  congrArg Reading.lines (ofEntries_cons_error notCard)

/-- The reading reports the entry at which it stops. -/
theorem StopsAt.lines_eq {behind : List Entry} (stops : StopsAt entries earlier entry behind fault) :
    (ofEntries entries).lines = .error ⟨entry.text, fault⟩ := by
  obtain ⟨lines, success⟩ := stops.readable
  rw [stops.whole, ofEntries_append, lines_andThen_of_ok success, lines_cons_error stops.refused]
  rfl

/-- A reading that fails stops at one of its entries. -/
theorem exists_stopsAt {failure : Unreadable} (failed : (ofEntries entries).lines = .error failure) :
    ∃ earlier entry behind, StopsAt entries earlier entry behind failure.fault ∧
      entry.text = failure.entry := by
  induction entries with
  | nil => contradiction
  | cons entry entries ih =>
    cases isCard : Card.read entry.text with
    | error fault =>
      rw [lines_cons_error isCard] at failed
      obtain rfl := Except.error.inj failed
      exact ⟨[], entry, entries, ⟨rfl, ⟨[], rfl⟩, isCard⟩, rfl⟩
    | ok card =>
      have failedLater : (ofEntries entries).lines = .error failure := by
        rw [lines_cons_ok isCard] at failed
        cases h : (ofEntries entries).lines with
        | ok lines =>
          rw [h] at failed
          contradiction
        | error failure' =>
          rw [h] at failed
          exact failed
      obtain ⟨earlier, stop, behind, stops, shown⟩ := ih failedLater
      obtain ⟨lines, success⟩ := stops.readable
      have whole : entry :: entries = entry :: earlier ++ stop :: behind := congrArg (entry :: ·) stops.whole
      have successFirst : (ofEntries (entry :: earlier)).lines = .ok (card.line :: lines) := by
        rw [lines_cons_ok isCard, success]
        rfl
      exact ⟨entry :: earlier, stop, behind, ⟨whole, ⟨_, successFirst⟩, stops.refused⟩, shown⟩

/-! ### Words behind words -/

variable {ws rest : List String} {tag word last : String} {color : Color} {lines : List String}

/-- Words are read behind others when no word joins the last entry in front. -/
theorem ofWords_append_of_opensBehind
    (opens : ∀ next ∈ rest.head?, Entry.opensBehind (Entry.ofWords ws) next = true) :
    ofWords (ws ++ rest) = (ofWords ws).andThen (ofWords rest) := by
  rw [ofWords, Entry.ofWords_append_of_opensBehind opens, ofEntries_append]
  rfl

/-- A color tag always opens an entry. -/
theorem ofWords_append_cons_tag (isTag : Color.isTag tag = true) :
    ofWords (ws ++ tag :: rest) = (ofWords ws).andThen (ofWords (tag :: rest)) := by
  apply ofWords_append_of_opensBehind
  intro next first
  obtain rfl := Option.mem_some_iff.mp first
  rw [Entry.opensBehind, isTag, Bool.true_or]

/-- In a line that can be read, an entry of one word is a color tag. -/
theorem isTag_of_lines_ok (allWords : ∀ word ∈ ws, IsWord word) (success : (ofWords ws).lines = .ok lines)
    (formed : Entry.ofWords ws = earlier ++ [[last]]) : Color.isTag last = true := by
  by_contra notTag
  have isWord : ∀ word ∈ [last], IsWord word :=
    Entry.isWord_of_mem_ofWords allWords (by simp [formed])
  have refused : Card.Refused [last] (.unknownColor last) := .color (eq_false_of_ne_true notTag)
  rw [ofWords, formed, ofEntries_append] at success
  cases h : (ofEntries earlier).lines with
  | error failure =>
    rw [lines_andThen_of_error h] at success
    contradiction
  | ok lines' =>
    rw [lines_andThen_of_ok h, ofEntries_cons_of_refused isWord refused] at success
    contradiction

/-- If a card ends where two lines meet, the second is read behind the first. -/
theorem lines_append_of_closed (allWords : ∀ word ∈ ws, IsWord word)
    (success : (ofWords ws).lines = .ok lines)
    (closed : rest = [] ∨ (∃ next ∈ rest.head?, Color.isTag next = true) ∨ ws = [] ∨
      ∃ word ∈ ws.getLast?, Color.isTag word = false) :
    (ofWords (ws ++ rest)).lines = (ofWords rest).lines.map (lines ++ ·) := by
  have opens : ∀ next ∈ rest.head?, Entry.opensBehind (Entry.ofWords ws) next = true := by
    intro next isNext
    rcases Entry.opensBehind_or_joins ws next with opens | ⟨notTag, earlier, last, formed⟩
    · exact opens
    -- The next word would join a color, which is the last word in front.
    have isTag := isTag_of_lines_ok allWords success formed
    have whole := Entry.flatten_ofWords ws
    rw [formed, List.flatten_append, List.flatten_singleton] at whole
    rcases closed with rfl | ⟨next', isNext', isTag'⟩ | rfl | ⟨last', isLast', notTag'⟩
    · contradiction
    · obtain rfl := Option.mem_unique isNext isNext'
      exact absurd (notTag.symm.trans isTag') Bool.false_ne_true
    · simp at whole
    · have same : last = last' := by simpa [← whole] using isLast'
      rw [same] at isTag
      exact absurd (notTag'.symm.trans isTag) Bool.false_ne_true
  rw [ofWords_append_of_opensBehind opens, lines_andThen_of_ok success]

/-- If the last word of the first line is a color, what is printed for it stands at the end. -/
theorem lines_concat_tag (isColor : Color.read tag = .ok color)
    (success : (ofWords (ws ++ [tag])).lines = .ok lines) :
    ∃ earlier, (ofWords ws).lines = .ok earlier ∧ lines = earlier ++ [Card.line ⟨color, none⟩] := by
  have alone : (ofWords [tag]).lines = .ok [Card.line ⟨color, none⟩] := by
    rw [ofWords_cons_plain isColor (by simp), lines_note]
    rfl
  rw [ofWords_append_cons_tag (Color.isTag_of_read isColor)] at success
  cases h : (ofWords ws).lines with
  | error failure =>
    rw [lines_andThen_of_error h] at success
    contradiction
  | ok earlier =>
    rw [lines_andThen_of_ok h, alone] at success
    exact ⟨earlier, rfl, (Except.ok.inj success).symm⟩

/-! ### Words behind a failure -/

/-- A word that is refused alone is refused for the same reason with another word behind it. -/
theorem refused_pair_of_refused_singleton (refused : Card.Refused [last] fault) :
    Card.Refused [last, word] fault := by
  cases refused with
  | color notTag => exact .color notTag

/-- The entry of a failure grows if it is the last one and has one word, and the next word joins it. -/
theorem lines_append_of_joins (allWords : ∀ word ∈ ws, IsWord word) (isWord : IsWord word)
    (notTag : Color.isTag word = false) (stops : StopsAt (Entry.ofWords ws) earlier [last] [] fault) :
    (ofWords (ws ++ word :: rest)).lines = .error ⟨last ++ " " ++ word, fault⟩ := by
  have isWord_last : ∀ word ∈ [last], IsWord word :=
    Entry.isWord_of_mem_ofWords allWords (by simp [stops.whole])
  have isWord_pair : ∀ w ∈ [last, word], IsWord w := by
    simpa using And.intro (isWord_last last List.mem_cons_self) isWord
  have refused : Card.Refused [last] fault :=
    Card.ofWords_eq_error_iff.mp ((Entry.read_text isWord_last).symm.trans stops.refused)
  have refused_pair : Card.Refused [last, word] fault := refused_pair_of_refused_singleton refused
  have grown : StopsAt (Entry.ofWords (ws ++ word :: rest)) earlier [last, word] (Entry.ofWords rest) fault :=
    ⟨Entry.ofWords_append_of_joins stops.whole notTag, stops.readable,
      (Entry.read_text isWord_pair).trans refused_pair.ofWords_eq⟩
  rw [ofWords, grown.lines_eq, Entry.text_pair]

/-- In all other cases the entry stays as it is, whatever comes behind. -/
theorem lines_append_of_stays {behind : List Entry}
    (stops : StopsAt (Entry.ofWords ws) earlier entry behind fault)
    (stays : ∀ last word more,
      entry = [last] → behind = [] → rest = word :: more → Color.isTag word = true) :
    (ofWords (ws ++ rest)).lines = .error ⟨entry.text, fault⟩ := by
  cases rest with
  | nil =>
    rw [List.append_nil]
    exact stops.lines_eq
  | cons word more =>
    rcases Entry.opensBehind_or_joins ws word with opens | ⟨notTag, earlier', last, formed⟩
    · have opensNext : ∀ next ∈ (word :: more).head?,
          Entry.opensBehind (Entry.ofWords ws) next = true := by
        intro next first
        obtain rfl := Option.mem_some_iff.mp first
        exact opens
      rw [ofWords_append_of_opensBehind opensNext]
      exact lines_andThen_of_error stops.lines_eq
    · -- The word joins the last entry, so the failure is in an entry before that.
      rcases List.eq_nil_or_concat' behind with rfl | ⟨between, final, rfl⟩
      · have same := stops.whole.symm.trans formed
        obtain ⟨-, isLast⟩ := List.append_inj' same rfl
        have isTag := stays last word more (List.cons.inj isLast).1 rfl rfl
        exact absurd (notTag.symm.trans isTag) Bool.false_ne_true
      · have same := stops.whole.symm.trans formed
        rw [← List.cons_append, ← List.append_assoc] at same
        obtain ⟨front, -⟩ := List.append_inj' same rfl
        have kept : StopsAt (Entry.ofWords (ws ++ word :: more)) earlier entry
            (between ++ [last, word] :: Entry.ofWords more) fault := by
          refine ⟨?_, stops.readable, stops.refused⟩
          rw [Entry.ofWords_append_of_joins formed notTag, ← front, List.append_assoc, List.cons_append]
        exact kept.lines_eq

-- The failure of the first line is shown with the first word of the second.
example : (ofWords (["RED", "7", "8"] ++ ["9"])).lines = .error ⟨"8 9", .unknownColor "8"⟩ := by rfl

/-- **Two command lines, one behind the other.** Let the first line be read. If the second has no words or begins
with a color tag, or if the first has no words or does not end with a color tag, then the lines of the second
are printed behind those of the first, or the second fails as it does alone. If the first ends with a color tag
and the second begins with another word, this word has to be a value tag. It is then the value of the last card
of the first line, and the words behind it are read as a line of their own. Let now the first line fail. The
joined line fails for the same reason and shows the same entry, with one exception: a failing entry of one word
that ends the first line takes the first word of the second line in, unless that is a color tag. -/
theorem lines_append (first second : List String) :
    (∀ lines, (ofArguments first).lines = .ok lines →
      (second.flatMap Text.words = [] ∨
        (∃ word ∈ (second.flatMap Text.words).head?, Color.isTag word = true) ∨
        first.flatMap Text.words = [] ∨
        ∃ word ∈ (first.flatMap Text.words).getLast?, Color.isTag word = false) →
      (ofArguments (first ++ second)).lines = (ofArguments second).lines.map (lines ++ ·)) ∧
    (∀ lines before tag word rest, (ofArguments first).lines = .ok lines →
      first.flatMap Text.words = before ++ [tag] → Color.isTag tag = true →
      second.flatMap Text.words = word :: rest → Color.isTag word = false →
      ∃ earlier color, Color.read tag = .ok color ∧ lines = earlier ++ [Card.line ⟨color, none⟩] ∧
        ((∀ value, Value.read word ≠ .ok value) →
          (ofArguments (first ++ second)).lines = .error ⟨tag ++ " " ++ word, .unknownValue word⟩) ∧
        ∀ value, Value.read word = .ok value →
          (ofArguments (first ++ second)).lines =
            (ofArguments rest).lines.map (earlier ++ Card.line ⟨color, some value⟩ :: ·)) ∧
    ∀ failure, (ofArguments first).lines = .error failure →
      ∃ earlier entry behind,
        StopsAt (Entry.ofArguments first) earlier entry behind failure.fault ∧ entry.text = failure.entry ∧
        (∀ last word rest, entry = [last] → behind = [] →
          second.flatMap Text.words = word :: rest → Color.isTag word = false →
          (ofArguments (first ++ second)).lines = .error ⟨failure.entry ++ " " ++ word, failure.fault⟩) ∧
        ((∀ last word rest, entry = [last] → behind = [] →
          second.flatMap Text.words = word :: rest → Color.isTag word = true) →
          (ofArguments (first ++ second)).lines = .error failure) := by
  have allWords : ∀ word ∈ first.flatMap Text.words, IsWord word := Text.isWord_of_mem_flatMap_words
  have allWords' : ∀ word ∈ second.flatMap Text.words, IsWord word := Text.isWord_of_mem_flatMap_words
  simp only [ofArguments_eq_ofWords, List.flatMap_append]
  refine ⟨fun lines success closed => lines_append_of_closed allWords success closed, ?_, ?_⟩
  · intro lines before tag word rest success endsWith isTag beginsWith notTag
    rw [beginsWith, List.forall_mem_cons] at allWords'
    obtain ⟨color, isColor⟩ := Color.isTag_iff.mp isTag
    rw [endsWith] at success
    obtain ⟨earlier, successBefore, rfl⟩ := lines_concat_tag isColor success
    have joined : (ofWords (before ++ [tag] ++ word :: rest)).lines =
        (ofWords (tag :: word :: rest)).lines.map (earlier ++ ·) := by
      rw [List.append_assoc, List.singleton_append, ofWords_append_cons_tag isTag,
        lines_andThen_of_ok successBefore]
    refine ⟨earlier, color, isColor, rfl, ?_, ?_⟩
    · intro noValue
      rcases Value.read_eq_ok_or word with ⟨value, isValue⟩ | notValue
      · exact absurd isValue (noValue value)
      · rw [endsWith, beginsWith, joined, ofWords_cons_noValue isColor allWords'.1 notTag notValue,
          lines_refusal]
        rfl
    · intro value isValue
      rw [endsWith, beginsWith, joined, ofWords_cons_valued isColor isValue, lines_note,
        Text.flatMap_words allWords'.2]
      cases (ofWords rest).lines <;> rfl
  · intro failure failed
    obtain ⟨earlier, entry, behind, stops, shown⟩ := exists_stopsAt failed
    refine ⟨earlier, entry, behind, stops, shown, ?_, ?_⟩
    · intro last word rest single final beginsWith notTag
      rw [single, final] at stops
      rw [beginsWith] at allWords' ⊢
      rw [lines_append_of_joins allWords (allWords' word List.mem_cons_self) notTag stops, ← shown, single,
        Entry.text_singleton]
    · intro stays
      rw [lines_append_of_stays stops stays, shown]

end Uno.Reading
