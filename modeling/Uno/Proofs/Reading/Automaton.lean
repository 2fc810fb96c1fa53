import Uno.Proofs.Reading.Step

/-!
# Reading in one pass

A reading forms all entries first and reads them afterwards. A word that is out of place can take its neighbour
into its entry, or be taken into the entry of its neighbour, before anything is refused. All the same, a reading
succeeds and fails like an automaton of two states that goes through the words once, from left to right, and
never looks ahead; and where it fails, it blames the word at which the automaton gets stuck. Only the text of the
entry shows that the next word had been looked at.

## Main definitions

* `Automaton.step`, `Automaton.run` — the automaton
* `Automaton.FailsAt` — the word at which it gets stuck

## Main results

* `Automaton.run_eq_none_iff` — the automaton fails at a word, or not at all
* `Reading.exists_cards_of_run` — what the automaton accepts is read
* `Reading.outcome_of_failsAt` — where the automaton fails, the reading fails for the same word
* `Reading.lines_automaton` — the two, with the messages of a failure
-/

namespace Uno

open Text (IsWord)

namespace Automaton

/-- The states of the automaton. -/
inductive State
  /-- A color is due. -/
  | fresh
  /-- A color has been read. Its value may follow, or the next color. -/
  | colored
  deriving DecidableEq, Repr

/-- The state after a word, if the word has a place. -/
def step : State → String → Option State
  | .fresh, word => if Color.isTag word then some .colored else none
  | .colored, word =>
    if Color.isTag word then some .colored
    else if (Value.ofTag? word).isSome then some .fresh
    else none

/-- The state after a sequence of words, if every word of it has a place. -/
def run (state : State) (ws : List String) : Option State :=
  ws.foldlM step state

/-- The automaton, begun in the state `start`, fails at a word: it comes to that word, and the word has no
place. -/
structure FailsAt (start : State) (ws before : List String) (word : String) (after : List String)
    (state : State) : Prop where
  whole : ws = before ++ word :: after
  reached : run start before = some state
  stuck : step state word = none

variable {start state : State} {tag word first : String} {ws rest before after : List String}

@[simp] theorem run_nil (state : State) : run state [] = some state := rfl

@[simp] theorem run_cons (state : State) (word : String) (ws : List String) :
    run state (word :: ws) = (step state word).bind (run · ws) := rfl

theorem not_failsAt_nil : ¬ FailsAt start [] before word after state := by
  intro fails
  have := fails.whole
  simp at this

/-- The automaton fails at the first word or behind it. -/
theorem failsAt_cons_iff :
    FailsAt start (first :: rest) before word after state ↔
      (before = [] ∧ word = first ∧ after = rest ∧ state = start ∧ step start first = none) ∨
        ∃ before' next, before = first :: before' ∧ step start first = some next ∧
          FailsAt next rest before' word after state := by
  constructor
  · intro fails
    obtain ⟨whole, reached, stuck⟩ := fails
    cases before with
    | nil =>
      -- Nothing has been read, so the automaton is still where it began.
      obtain ⟨rfl, rfl⟩ := List.cons.inj whole
      obtain rfl := Option.some.inj reached
      exact Or.inl ⟨rfl, rfl, rfl, rfl, stuck⟩
    | cons _ before =>
      obtain ⟨rfl, rfl⟩ := List.cons.inj whole
      rw [run_cons, Option.bind_eq_some_iff] at reached
      obtain ⟨next, stepped, reached⟩ := reached
      exact Or.inr ⟨before, next, rfl, stepped, rfl, reached, stuck⟩
  · intro split
    rcases split with ⟨rfl, rfl, rfl, rfl, stuck⟩ | ⟨before', next, rfl, stepped, rfl, reached, stuck⟩
    · exact ⟨rfl, rfl, stuck⟩
    · refine ⟨rfl, ?_, stuck⟩
      rw [run_cons, stepped]
      exact reached

/-- The automaton fails at a word, or not at all. -/
theorem run_eq_none_iff :
    run start ws = none ↔ ∃ before word after state, FailsAt start ws before word after state := by
  induction ws generalizing start with
  | nil => simp [not_failsAt_nil]
  | cons first rest ih =>
    simp only [failsAt_cons_iff, run_cons]
    cases h : step start first with
    | none =>
      constructor
      · intro _
        exact ⟨[], first, rest, start, Or.inl ⟨rfl, rfl, rfl, rfl, rfl⟩⟩
      · intro _
        rfl
    | some next =>
      rw [Option.bind_some, ih]
      constructor
      · intro later
        obtain ⟨before, word, after, state, fails⟩ := later
        exact ⟨first :: before, word, after, state, Or.inr ⟨before, next, rfl, rfl, fails⟩⟩
      · intro somewhere
        obtain ⟨_, word, after, state, here | ⟨before, _, -, stepped, fails⟩⟩ := somewhere
        -- The first word has a place, so it is not the one that is stuck.
        · obtain ⟨-, -, -, -, stuck⟩ := here
          contradiction
        · obtain rfl := Option.some.inj stepped
          exact ⟨before, word, after, state, fails⟩

/-! ### Single steps -/

/-- A color tag has a place in either state. -/
theorem step_of_isTag (state : State) (isTag : Color.isTag tag = true) :
    step state tag = some .colored := by
  cases state <;> simp [step, isTag]

theorem step_fresh_of_not_isTag (notTag : Color.isTag word = false) : step .fresh word = none := by
  simp [step, notTag]

theorem step_colored_of_value {value : Value} (isValue : Value.read word = .ok value) :
    step .colored word = some .fresh := by
  simp [step, Color.isTag_of_read_value isValue, Value.read_eq_ok_iff.mp isValue]

theorem step_colored_of_noValue {fault : CardError} (notTag : Color.isTag word = false)
    (notValue : Value.read word = .error fault) : step .colored word = none := by
  cases h : Value.ofTag? word with
  | none => simp [step, notTag, h]
  | some value =>
    rw [Value.read_eq_ok_iff.mpr h] at notValue
    contradiction

/-- In front of a color tag the two states do not differ. -/
theorem step_colored_eq_step_fresh (isTag : Color.isTag word = true) :
    step .colored word = step .fresh word := by
  rw [step_of_isTag .colored isTag, step_of_isTag .fresh isTag]

/-- A color without a value leaves nothing behind: the automaton goes on as if it began anew. -/
theorem run_colored_eq_none_iff (closed : ∀ next ∈ rest.head?, Color.isTag next = true) :
    run .colored rest = none ↔ run .fresh rest = none := by
  cases rest with
  | nil => simp
  | cons next others => rw [run_cons, run_cons, step_colored_eq_step_fresh (closed next rfl)]

theorem FailsAt.fresh_of_colored (closed : ∀ next ∈ rest.head?, Color.isTag next = true)
    (fails : FailsAt .colored rest before word after state) :
    FailsAt .fresh rest before word after state := by
  cases rest with
  | nil => exact absurd fails not_failsAt_nil
  | cons next others =>
    have opens := closed next rfl
    rw [failsAt_cons_iff, step_of_isTag .colored opens] at fails
    rw [failsAt_cons_iff, step_of_isTag .fresh opens]
    rcases fails with ⟨-, -, -, -, stuck⟩ | goesOn
    · contradiction
    -- From the first step on, the two runs are one.
    · exact Or.inr goesOn

/-- What a reading reports where the automaton fails. A word in place of a color is blamed under the entry that
it opens, a word in place of a value under the entry that it shares with the color in front of it. -/
inductive Blames : List String → String → List String → State → Unreadable → Prop
  | color (before : List String) (word : String) (after : List String) :
    Blames before word after .fresh ⟨Entry.opened word after, .unknownColor word⟩
  | value (earlier : List String) (tag word : String) (after : List String) :
    Blames (earlier ++ [tag]) word after .colored ⟨tag ++ " " ++ word, .unknownValue word⟩

/-- Words in front of what has been read do not change the report. -/
theorem Blames.cons {failure : Unreadable} (first : String)
    (blames : Blames before word after state failure) :
    Blames (first :: before) word after state failure := by
  cases blames with
  | color => exact .color (first :: before) word after
  | value earlier tag => exact .value (first :: earlier) tag word after

end Automaton

namespace Reading

open Automaton

/-- What the automaton accepts is read. -/
theorem exists_cards_of_run {ws : List String} (allWords : ∀ word ∈ ws, IsWord word)
    (accepted : run .fresh ws ≠ none) : ∃ cards, (ofWords ws).outcome = .ok cards := by
  induction ws using words_induction with
  | nil => exact ⟨[], rfl⟩
  -- The automaton does not accept the two sequences of words that end a reading.
  | noColor word rest notTag =>
    rw [run_cons, step_fresh_of_not_isTag notTag] at accepted
    contradiction
  | noValue tag word rest color isColor notTag notValue =>
    rw [run_cons, step_of_isTag .fresh (Color.isTag_of_read isColor), Option.bind_some, run_cons,
      step_colored_of_noValue notTag notValue] at accepted
    contradiction
  -- A color alone leaves the automaton in a state that does not matter, since a color or nothing follows.
  | plain tag rest color isColor closed ih =>
    rw [run_cons, step_of_isTag .fresh (Color.isTag_of_read isColor), Option.bind_some, ne_eq,
      run_colored_eq_none_iff closed] at accepted
    obtain ⟨cards, isRead⟩ := ih (List.forall_mem_cons.mp allWords).2 accepted
    rw [ofWords_cons_plain isColor closed]
    exact ⟨_, outcome_note_eq_ok_iff.mpr ⟨cards, isRead, rfl⟩⟩
  | valued tag valueTag rest color value isColor isValue ih =>
    rw [run_cons, step_of_isTag .fresh (Color.isTag_of_read isColor), Option.bind_some, run_cons,
      step_colored_of_value isValue, Option.bind_some] at accepted
    simp only [List.forall_mem_cons] at allWords
    obtain ⟨cards, isRead⟩ := ih allWords.2.2 accepted
    rw [ofWords_cons_valued isColor isValue]
    exact ⟨_, outcome_note_eq_ok_iff.mpr ⟨cards, isRead, rfl⟩⟩

/-- Where the automaton fails, the reading fails for the same word. -/
theorem outcome_of_failsAt {ws before after : List String} {word : String} {state : State}
    (allWords : ∀ word ∈ ws, IsWord word) (fails : FailsAt .fresh ws before word after state) :
    ∃ failure, (ofWords ws).outcome = .error failure ∧ Blames before word after state failure := by
  -- What is reported depends on the last word that was read, so it is carried along in `Blames`, which does not
  -- change when words are put in front.
  induction ws using words_induction generalizing before with
  | nil => exact absurd fails not_failsAt_nil
  | noColor first rest notTag =>
    rw [failsAt_cons_iff, step_fresh_of_not_isTag notTag] at fails
    rcases fails with ⟨rfl, rfl, rfl, rfl, -⟩ | ⟨_, _, -, stepped, -⟩
    · exact ⟨_, congrArg outcome (ofWords_cons_noColor allWords notTag), .color [] word after⟩
    · contradiction
  | noValue tag second rest color isColor notTag notValue =>
    rw [failsAt_cons_iff, step_of_isTag .fresh (Color.isTag_of_read isColor)] at fails
    rcases fails with ⟨-, -, -, -, stuck⟩ | ⟨before, next, rfl, stepped, fails⟩
    · contradiction
    obtain rfl := Option.some.inj stepped
    -- The color has been read, and the automaton is stuck at the word behind it.
    rw [failsAt_cons_iff, step_colored_of_noValue notTag notValue] at fails
    rcases fails with ⟨rfl, rfl, rfl, rfl, -⟩ | ⟨_, _, -, stepped, -⟩
    · simp only [List.forall_mem_cons] at allWords
      exact ⟨_, congrArg outcome (ofWords_cons_noValue isColor allWords.2.1 notTag notValue),
        .value [] tag word after⟩
    · contradiction
  | plain tag rest color isColor closed ih =>
    rw [failsAt_cons_iff, step_of_isTag .fresh (Color.isTag_of_read isColor)] at fails
    rcases fails with ⟨-, -, -, -, stuck⟩ | ⟨before, next, rfl, stepped, fails⟩
    · contradiction
    obtain rfl := Option.some.inj stepped
    obtain ⟨failure, failed, blames⟩ :=
      ih (List.forall_mem_cons.mp allWords).2 (fails.fresh_of_colored closed)
    rw [ofWords_cons_plain isColor closed]
    exact ⟨failure, outcome_note_of_error failed, blames.cons tag⟩
  | valued tag valueTag rest color value isColor isValue ih =>
    rw [failsAt_cons_iff, step_of_isTag .fresh (Color.isTag_of_read isColor)] at fails
    rcases fails with ⟨-, -, -, -, stuck⟩ | ⟨before, next, rfl, stepped, fails⟩
    · contradiction
    obtain rfl := Option.some.inj stepped
    rw [failsAt_cons_iff, step_colored_of_value isValue] at fails
    rcases fails with ⟨-, -, -, -, stuck⟩ | ⟨before, next, rfl, stepped, fails⟩
    · contradiction
    obtain rfl := Option.some.inj stepped
    simp only [List.forall_mem_cons] at allWords
    obtain ⟨failure, failed, blames⟩ := ih allWords.2.2 fails
    rw [ofWords_cons_valued isColor isValue]
    exact ⟨failure, outcome_note_of_error failed, (blames.cons valueTag).cons tag⟩

-- The word behind the one that is blamed is shown with it.
example : (ofWords ["RED", "7", "8", "9"]).outcome = .error ⟨"8 9", .unknownColor "8"⟩ := by rfl

/-- **One pass.** The cards of a command line can be read exactly when the automaton accepts its words. If it
fails at a word, then the words in front of it can be read alone; the reading fails; and what is shown is the
entry of that word and, as the cause, the word itself, as an unknown color or as an unknown value. -/
theorem lines_automaton (arguments : List String) :
    ((∃ failure, (ofArguments arguments).lines = .error failure) ↔
      run .fresh (arguments.flatMap Text.words) = none) ∧
    (run .fresh (arguments.flatMap Text.words) = none ↔
      ∃ before word after state, FailsAt .fresh (arguments.flatMap Text.words) before word after state) ∧
    ∀ before word after state, FailsAt .fresh (arguments.flatMap Text.words) before word after state →
      (∃ lines, (ofArguments before).lines = .ok lines) ∧
      ∃ entry fault, (ofArguments arguments).lines = .error ⟨entry, fault⟩ ∧
        match state with
        | .fresh =>
          fault = .unknownColor word ∧
          (entry = match after with
            | [] => word
            | next :: _ => if Color.isTag next then word else word ++ " " ++ next) ∧
          Unreadable.causes ⟨entry, fault⟩ =
            ["Could not read `" ++ entry ++ "` as a card", "Unknown card color `" ++ word ++ "`"]
        | .colored =>
          fault = .unknownValue word ∧
          (∃ earlier tag, before = earlier ++ [tag] ∧ entry = tag ++ " " ++ word) ∧
          Unreadable.causes ⟨entry, fault⟩ =
            ["Could not read `" ++ entry ++ "` as a card", "Unknown card value `" ++ word ++ "`"] := by
  have allWords : ∀ word ∈ arguments.flatMap Text.words, IsWord word :=
    Text.isWord_of_mem_flatMap_words
  rw [ofArguments_eq_ofWords]
  refine ⟨⟨?_, ?_⟩, run_eq_none_iff, ?_⟩
  · intro unreadable
    obtain ⟨failure, failed⟩ := unreadable
    by_contra accepted
    obtain ⟨cards, isRead⟩ := exists_cards_of_run allWords accepted
    rw [lines_eq_ok_iff.mpr ⟨cards, isRead, rfl⟩] at failed
    contradiction
  · intro rejected
    obtain ⟨before, word, after, state, fails⟩ := run_eq_none_iff.mp rejected
    obtain ⟨failure, failed, -⟩ := outcome_of_failsAt allWords fails
    exact ⟨failure, lines_eq_error_iff.mpr failed⟩
  · intro before word after state fails
    obtain ⟨failure, failed, blames⟩ := outcome_of_failsAt allWords fails
    refine ⟨?_, failure.entry, failure.fault, lines_eq_error_iff.mpr failed, ?_⟩
    · have wordsBefore : ∀ word ∈ before, IsWord word := by
        intro word member
        apply allWords
        rw [fails.whole]
        exact List.mem_append_left _ member
      have accepted : run .fresh before ≠ none := by
        rw [fails.reached]
        exact Option.some_ne_none state
      obtain ⟨cards, isRead⟩ := exists_cards_of_run wordsBefore accepted
      rw [ofArguments_eq_ofWords, Text.flatMap_words wordsBefore]
      exact ⟨_, lines_eq_ok_iff.mpr ⟨cards, isRead, rfl⟩⟩
    · cases blames with
      | color => exact ⟨rfl, by cases after <;> rfl, rfl⟩
      | value earlier tag => exact ⟨rfl, ⟨earlier, tag, rfl, rfl⟩, rfl⟩

end Reading

end Uno
