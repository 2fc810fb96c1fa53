import Mathlib.Data.List.Forall2
import Uno.Proofs.Reading.Append
import Uno.Proofs.Reading.RoundTrip

/-!
# What the events of a reading tell

While a command line is read, three events are noted for each entry that is a card: that its text is looked at, that
it is a card, and that the card is done. An entry that is no card leaves the first of the three only, and nothing
is noted behind it. Forming the entries leaves no trace at all. An observer who sees nothing but the events
therefore knows how the reading ended: with a last event of the first kind it failed, for the text that this event
names; otherwise it succeeded, and the events of the third kind name the cards.

## Main definitions

* `Observation`, `Event.observe` — what is seen of an event
* `Observation.ofCards` — what is seen of texts that are read as cards, one after the other
* `Observation.recover` — the end of a reading, as an observer infers it

## Main results

* `Reading.observed_of_outcome_ok`, `Reading.StopsAt.observed_eq` — the events of a success, and of a failure
* `Observation.recover_ofCards`, `Observation.recover_concat_begun` — what the observer infers from them
* `Reading.observed_tells_outcome` — events, lines and message of a reading together
-/

namespace Uno

/-- What is seen of an event: its level, its message, and its detail with the name of the detail. -/
structure Observation where
  level : Level
  message : String
  detailName : String
  detail : String
  deriving DecidableEq, Repr

/-- What is seen of an event. -/
def Event.observe [Text.Repertoire] (event : Event) : Observation :=
  ⟨event.level, event.message, event.detailName, event.detail⟩

namespace Observation

/-- A text is looked at. -/
def begun (text : String) : Observation :=
  ⟨.trace, "parsing card", "input", text⟩

/-- A text is looked at, is a card, and is done. -/
def ofCard (text : String) (card : Card) : List Observation :=
  [begun text, ⟨.debug, "parsed card", "card", card.text⟩, ⟨.info, "read card", "card", card.text⟩]

/-- Texts are read as cards, one after the other. -/
def ofCards (texts : List String) (cards : List Card) : List Observation :=
  (texts.zip cards).flatMap fun (text, card) => ofCard text card

/-- How a reading ended, as far as it can be told from its events: the text at which it failed, or the texts of
the cards. -/
def recover (observed : List Observation) : Except String (List String) :=
  match observed.getLast? with
  | some ⟨.trace, _, _, text⟩ => .error text
  | _ => .ok ((observed.filter (·.level = .info)).map (·.detail))

variable {texts : List String} {cards : List Card} {R : String → Card → Prop}

theorem ofCards_cons (text : String) (card : Card) (texts : List String) (cards : List Card) :
    ofCards (text :: texts) (card :: cards) = ofCard text card ++ ofCards texts cards := rfl

/-- The events of cards that are done name the cards. -/
theorem filter_info_ofCards (paired : List.Forall₂ R texts cards) :
    ((ofCards texts cards).filter (·.level = .info)).map (·.detail) = cards.map Card.text := by
  induction paired with
  | nil => rfl
  | cons _ _ ih => simpa [ofCards_cons, ofCard, begun] using ih

/-- The events of texts that are looked at name the texts. -/
theorem filter_trace_ofCards (paired : List.Forall₂ R texts cards) :
    ((ofCards texts cards).filter (·.level = .trace)).map (·.detail) = texts := by
  induction paired with
  | nil => rfl
  | cons _ _ ih => simpa [ofCards_cons, ofCard, begun] using ih

/-- The last event, if there is one, is that of a card that is done. -/
theorem level_of_mem_getLast?_ofCards (texts : List String) (cards : List Card) :
    ∀ last ∈ (ofCards texts cards).getLast?, last.level = .info := by
  rcases List.eq_nil_or_concat' (texts.zip cards) with none | ⟨earlier, final, pairs⟩
  · simp [ofCards, none]
  · simp [ofCards, pairs, ofCard]

/-- From the events of a success, the observer infers the cards. -/
theorem recover_ofCards (paired : List.Forall₂ R texts cards) :
    recover (ofCards texts cards) = .ok (cards.map Card.text) := by
  unfold recover
  split
  · rename_i text last
    have done := level_of_mem_getLast?_ofCards texts cards _ last
    contradiction
  · rw [filter_info_ofCards paired]

/-- From the events of a failure, the observer infers the text that is no card. -/
theorem recover_concat_begun (observed : List Observation) (text : String) :
    recover (observed ++ [begun text]) = .error text := by
  simp [recover, begun]

end Observation

namespace Reading

open Observation (begun ofCard ofCards recover)

variable [Text.Repertoire]

/-- What is seen of the events of a reading. -/
def observed (reading : Reading) : List Observation :=
  reading.events.map Event.observe

variable {entries earlier : List Entry} {entry : Entry} {cards : List Card} {fault : CardError}

/-! ### One step -/

theorem observed_note (text : String) (card : Card) (later : Reading) :
    (note text card later).observed = ofCard text card ++ later.observed := rfl

theorem observed_refusal (text : String) (fault : CardError) :
    (refusal text fault).observed = [begun text] := rfl

theorem observed_andThen_of_ok {first later : Reading} (success : first.outcome = .ok cards) :
    (first.andThen later).observed = first.observed ++ later.observed := by
  rw [andThen, success]
  exact List.map_append

/-! ### A whole reading -/

/-- A reading that succeeds has read each entry as its card, and nothing else is seen. -/
theorem observed_of_outcome_ok (success : (ofEntries entries).outcome = .ok cards) :
    List.Forall₂ (fun text card => Card.read text = .ok card) (entries.map Entry.text) cards ∧
      (ofEntries entries).observed = ofCards (entries.map Entry.text) cards := by
  induction entries generalizing cards with
  | nil =>
    obtain rfl := Except.ok.inj success
    exact ⟨.nil, rfl⟩
  | cons entry entries ih =>
    cases isCard : Card.read entry.text with
    | ok card =>
      have step : ofEntries (entry :: entries) = note entry.text card (ofEntries entries) :=
        ofEntries_cons_ok isCard
      rw [step, outcome_note_eq_ok_iff] at success
      obtain ⟨others, successLater, rfl⟩ := success
      obtain ⟨areCards, seen⟩ := ih successLater
      rw [step, observed_note, seen]
      exact ⟨.cons isCard areCards, rfl⟩
    | error fault =>
      rw [ofEntries_cons_error isCard] at success
      contradiction

/-- A reading that stops at an entry begins with this entry, and nothing else is seen behind the entries in front of
it. -/
theorem StopsAt.observed_eq {behind : List Entry} (stops : StopsAt entries earlier entry behind fault) :
    (ofEntries entries).observed = (ofEntries earlier).observed ++ [begun entry.text] := by
  obtain ⟨lines, success⟩ := stops.readable
  obtain ⟨cards, isRead, -⟩ := lines_eq_ok_iff.mp success
  have step : ofEntries (entry :: behind) = refusal entry.text fault := ofEntries_cons_error stops.refused
  rw [stops.whole, ofEntries_append, observed_andThen_of_ok isRead, step, observed_refusal]

/-- The events of a success. -/
theorem observed_of_lines_ok {lines : List String} (success : (ofEntries entries).lines = .ok lines) :
    ∃ cards, List.Forall₂ (fun text card => Card.read text = .ok card) (entries.map Entry.text) cards ∧
      (ofEntries entries).observed = ofCards (entries.map Entry.text) cards ∧
      lines.map Text.firstColumn = cards.map Card.text := by
  obtain ⟨cards, isRead, rfl⟩ := lines_eq_ok_iff.mp success
  obtain ⟨areCards, seen⟩ := observed_of_outcome_ok isRead
  exact ⟨cards, areCards, seen, map_firstColumn_map_line cards⟩

/-- The events of a failure. -/
theorem observed_of_lines_error {failure : Unreadable} (failed : (ofEntries entries).lines = .error failure) :
    ∃ earlier behind cards, entries.map Entry.text = earlier ++ failure.entry :: behind ∧
      List.Forall₂ (fun text card => Card.read text = .ok card) earlier cards ∧
      Card.read failure.entry = .error failure.fault ∧
      (ofEntries entries).observed = ofCards earlier cards ++ [begun failure.entry] := by
  obtain ⟨earlier, entry, behind, stops, shown⟩ := exists_stopsAt failed
  obtain ⟨lines, success⟩ := stops.readable
  obtain ⟨cards, areCards, seen, -⟩ := observed_of_lines_ok success
  refine ⟨earlier.map Entry.text, behind.map Entry.text, cards, ?_, areCards, ?_, ?_⟩
  · rw [stops.whole, List.map_append, List.map_cons, shown]
  · rw [← shown, stops.refused]
  · rw [stops.observed_eq, seen, shown]

/-! ### What can be inferred -/

/-- A reading succeeds exactly if the last event, if there is one, is that of a card that is done. -/
theorem exists_lines_iff_level_info :
    (∃ lines, (ofEntries entries).lines = .ok lines) ↔
      ∀ last ∈ (ofEntries entries).observed.getLast?, last.level = .info := by
  constructor
  · intro readable
    obtain ⟨lines, success⟩ := readable
    obtain ⟨cards, -, seen, -⟩ := observed_of_lines_ok success
    rw [seen]
    exact Observation.level_of_mem_getLast?_ofCards _ cards
  · intro allDone
    cases h : (ofEntries entries).lines with
    | ok lines => exact ⟨lines, rfl⟩
    | error failure =>
      obtain ⟨earlier, -, cards, -, -, -, seen⟩ := observed_of_lines_error h
      have done := allDone (begun failure.entry) (by simp [seen])
      contradiction

/-- A reading fails exactly if the last event is that of a text that is looked at. -/
theorem exists_failure_iff_level_trace :
    (∃ failure, (ofEntries entries).lines = .error failure) ↔
      ∃ last ∈ (ofEntries entries).observed.getLast?, last.level = .trace := by
  constructor
  · intro unreadable
    obtain ⟨failure, failed⟩ := unreadable
    obtain ⟨earlier, -, cards, -, -, -, seen⟩ := observed_of_lines_error failed
    exact ⟨begun failure.entry, by simp [seen], rfl⟩
  · intro looked
    obtain ⟨last, isLast, trace⟩ := looked
    cases h : (ofEntries entries).lines with
    | ok lines =>
      have info := exists_lines_iff_level_info.mp ⟨lines, h⟩ last isLast
      rw [trace] at info
      contradiction
    | error failure => exact ⟨failure, rfl⟩

/-- The observer infers the texts of the cards that are printed, or the text that is quoted in the message. -/
theorem recover_observed :
    recover (ofEntries entries).observed =
      match (ofEntries entries).lines with
      | .ok lines => .ok (lines.map Text.firstColumn)
      | .error failure => .error failure.entry := by
  cases h : (ofEntries entries).lines with
  | ok lines =>
    obtain ⟨cards, areCards, seen, printed⟩ := observed_of_lines_ok h
    rw [seen, Observation.recover_ofCards areCards, ← printed]
  | error failure =>
    obtain ⟨earlier, -, cards, -, -, -, seen⟩ := observed_of_lines_error h
    rw [seen, Observation.recover_concat_begun]

/-- **Events and outcome.** If a command line is read, there are three events for each of its entries, in order, and no
others: the text of the entry is looked at, it is a card, and the card is done; and the texts of these cards are the
first columns of the lines that are printed. If it is not read, the entries in front of the failing one have left
their three events, the failing one has left the first, its text is the one that the message quotes, and no later
entry has left any. So there are as many events of the level `info` as cards have been read, and the texts that have
been looked at are those up to the failure. Whether the reading succeeded can be told from the level of the last event,
and the cards, or the text that the message quotes, can be told from the events. -/
theorem observed_tells_outcome (arguments : List String) :
    (∀ lines, (ofArguments arguments).lines = .ok lines → ∃ cards,
      List.Forall₂ (fun text card => Card.read text = .ok card)
        ((Entry.ofArguments arguments).map Entry.text) cards ∧
      (ofArguments arguments).observed = ofCards ((Entry.ofArguments arguments).map Entry.text) cards ∧
      lines.map Text.firstColumn = cards.map Card.text) ∧
    (∀ failure, (ofArguments arguments).lines = .error failure → ∃ earlier behind cards,
      (Entry.ofArguments arguments).map Entry.text = earlier ++ failure.entry :: behind ∧
      List.Forall₂ (fun text card => Card.read text = .ok card) earlier cards ∧
      Card.read failure.entry = .error failure.fault ∧
      failure.message = "Could not read `" ++ failure.entry ++ "` as a card" ∧
      (ofArguments arguments).observed = ofCards earlier cards ++ [begun failure.entry] ∧
      ((ofArguments arguments).observed.filter (·.level = .info)).length = cards.length ∧
      ((ofArguments arguments).observed.filter (·.level = .trace)).map (·.detail) =
        earlier ++ [failure.entry]) ∧
    ((∃ lines, (ofArguments arguments).lines = .ok lines) ↔
      ∀ last ∈ (ofArguments arguments).observed.getLast?, last.level = .info) ∧
    ((∃ failure, (ofArguments arguments).lines = .error failure) ↔
      ∃ last ∈ (ofArguments arguments).observed.getLast?, last.level = .trace) ∧
    recover (ofArguments arguments).observed =
      match (ofArguments arguments).lines with
      | .ok lines => .ok (lines.map Text.firstColumn)
      | .error failure => .error failure.entry := by
  refine ⟨fun lines => observed_of_lines_ok, ?_, exists_lines_iff_level_info,
    exists_failure_iff_level_trace, recover_observed⟩
  intro failure failed
  obtain ⟨earlier, behind, cards, whole, areCards, notCard, seen⟩ := observed_of_lines_error failed
  have seen' : (ofArguments arguments).observed = ofCards earlier cards ++ [begun failure.entry] := seen
  refine ⟨earlier, behind, cards, whole, areCards, notCard, rfl, seen', ?_, ?_⟩
  · have named := congrArg List.length (Observation.filter_info_ofCards areCards)
    rw [List.length_map, List.length_map] at named
    rw [seen', List.filter_append, List.length_append, named]
    rfl
  · rw [seen', List.filter_append, List.map_append, Observation.filter_trace_ofCards areCards]
    rfl

end Reading

end Uno
