import Uno.Proofs.Reading.Automaton
import Uno.Proofs.Reading.Spelling

/-!
# Other spellings of a command line

A word counts for what it means as a color and as a value, and for nothing else. Two command lines whose words mean
the same, word by word, are therefore taken apart into entries at the same places, are read as the same cards, and
fail at the same word for the same reason. What a failure shows is the word as it was typed. Letter case has no
influence on the meaning of a word, and no letter is a blank, so the case of the letters in a command line
changes nothing but the texts that a failure shows.

## Main definitions

* `Reading.Respelled` — two words that differ in spelling only
* `Reading.Alike` — two words that mean the same
* `Reading.FailsAtWord` — the word at which the reading of a command line fails
* `Reading.Agree` — two command lines that are read alike

## Main results

* `Entry.ofWords_alike` — words that mean the same form entries that mean the same
* `Automaton.step_alike`, `Automaton.run_alike` — words that mean the same take the automaton through the same
  states
* `Reading.agree_of_respelled` — command lines that differ in spelling only are read alike
-/

namespace Uno

open Text (EqualUpToCase IsWord)

/-! ### Words that mean the same -/

/-- Two words that differ in spelling only: in letter case, or as two tags of one color or of one value. -/
def Reading.Respelled (left right : String) : Prop :=
  EqualUpToCase left right ∨ (∃ color : Color, color.SpelledBy left ∧ color.SpelledBy right) ∨
    ∃ value : Value, value.SpelledBy left ∧ value.SpelledBy right

/-- Two words that mean the same, as a color and as a value. -/
structure Reading.Alike (left right : String) : Prop where
  color : Color.ofTag? left = Color.ofTag? right
  value : Value.ofTag? left = Value.ofTag? right

open Reading (Alike)

theorem Reading.Respelled.alike {left right : String} (respelled : Respelled left right) :
    Alike left right := by
  rcases respelled with same | ⟨color, isLeft, isRight⟩ | ⟨value, isLeft, isRight⟩
  · exact ⟨Color.ofTag?_congr same, Value.ofTag?_congr same⟩
  · -- Tags of a color mean that color, and they are no values.
    rw [← Color.read_eq_ok_iff_spelledBy] at isLeft isRight
    refine ⟨?_, ?_⟩
    · rw [Color.read_eq_ok_iff.mp isLeft, Color.read_eq_ok_iff.mp isRight]
    · rw [Value.ofTag?_of_isTag (Color.isTag_of_read isLeft),
        Value.ofTag?_of_isTag (Color.isTag_of_read isRight)]
  · rw [← Value.read_eq_ok_iff_spelledBy] at isLeft isRight
    have notLeft := Color.isTag_of_read_value isLeft
    have notRight := Color.isTag_of_read_value isRight
    rw [Color.isTag, Option.isSome_eq_false_iff, Option.isNone_iff_eq_none] at notLeft notRight
    refine ⟨notLeft.trans notRight.symm, ?_⟩
    rw [Value.read_eq_ok_iff.mp isLeft, Value.read_eq_ok_iff.mp isRight]

namespace Reading.Alike

variable {left right : String}

theorem isTag_eq (alike : Alike left right) : Color.isTag left = Color.isTag right := by
  rw [Color.isTag, Color.isTag, alike.color]

theorem read_color (alike : Alike left right) {color : Color} (isColor : Color.read left = .ok color) :
    Color.read right = .ok color := by
  rw [Color.read_eq_ok_iff] at isColor ⊢
  exact alike.color.symm.trans isColor

theorem read_value (alike : Alike left right) {value : Value} (isValue : Value.read left = .ok value) :
    Value.read right = .ok value := by
  rw [Value.read_eq_ok_iff] at isValue ⊢
  exact alike.value.symm.trans isValue

end Reading.Alike

variable {ws ws' : List String}

/-! ### Cards -/

/-- Words that mean the same form entries that mean the same. -/
theorem Entry.ofWords_alike (alike : List.Forall₂ Alike ws ws') :
    List.Forall₂ (List.Forall₂ Alike) (ofWords ws) (ofWords ws') := by
  fun_induction ofWords ws generalizing ws' with
  | case1 =>
    cases alike
    exact .nil
  | case2 word =>
    cases alike with
    | cons first none =>
      cases none
      exact .cons (.cons first .nil) .nil
  | case3 first second rest opens ih =>
    cases alike with
    | cons alikeFirst others =>
      cases others with
      | cons alikeSecond others =>
        rw [ofWords_cons_tag (alikeSecond.isTag_eq.symm.trans opens)]
        exact .cons (.cons alikeFirst .nil) (ih (.cons alikeSecond others))
  | case4 first second rest joins ih =>
    cases alike with
    | cons alikeFirst others =>
      cases others with
      | cons alikeSecond others =>
        rw [ofWords_cons_cons (alikeSecond.isTag_eq.symm.trans (eq_false_of_ne_true joins))]
        exact .cons (.cons alikeFirst (.cons alikeSecond .nil)) (ih others)

/-- Words that mean the same spell the same card. -/
theorem Card.Spelled.of_alike {card : Card} (spelled : Spelled ws card) (alike : List.Forall₂ Alike ws ws') :
    Spelled ws' card := by
  cases spelled with
  | plain isColor =>
    cases alike with
    | cons first none =>
      cases none
      exact .plain (first.read_color isColor)
  | valued isColor isValue =>
    cases alike with
    | cons first others =>
      cases others with
      | cons second none =>
        cases none
        exact .valued (first.read_color isColor) (second.read_value isValue)

/-- Entries that mean the same are read as the same cards. -/
theorem Reading.forall₂_spelled_of_alike {entries entries' : List Entry} {cards : List Card}
    (spelled : List.Forall₂ Card.Spelled entries cards)
    (alike : List.Forall₂ (List.Forall₂ Alike) entries entries') :
    List.Forall₂ Card.Spelled entries' cards := by
  induction spelled generalizing entries' with
  | nil =>
    cases alike
    exact .nil
  | cons first _ ih =>
    cases alike with
    | cons alikeFirst others => exact .cons (first.of_alike alikeFirst) (ih others)

theorem Reading.outcome_ofWords_of_alike {cards : List Card} (allWords : ∀ word ∈ ws, IsWord word)
    (allWords' : ∀ word ∈ ws', IsWord word) (alike : List.Forall₂ Alike ws ws')
    (isRead : (ofWords ws).outcome = .ok cards) : (ofWords ws').outcome = .ok cards := by
  rw [outcome_ofWords_eq_ok_iff allWords] at isRead
  rw [outcome_ofWords_eq_ok_iff allWords']
  exact forall₂_spelled_of_alike isRead (Entry.ofWords_alike alike)

/-! ### Failures -/

namespace Automaton

variable {start state : State} {word : String} {before after : List String} {failure : Unreadable}

theorem step_alike {left right : String} (alike : Alike left right) (state : State) :
    step state left = step state right := by
  cases state <;> simp only [step, alike.isTag_eq, alike.value]

/-- Words that mean the same take the automaton through the same states. -/
theorem run_alike (alike : List.Forall₂ Alike ws ws') : run start ws = run start ws' := by
  induction alike generalizing start with
  | nil => rfl
  | cons first _ ih =>
    rw [run_cons, run_cons, step_alike first]
    congr 1
    funext next
    exact ih

/-- Words that mean the same make the automaton fail at the same place. -/
theorem FailsAt.of_alike (fails : FailsAt start ws before word after state)
    (alike : List.Forall₂ Alike ws ws') :
    ∃ before' word' after', FailsAt start ws' before' word' after' state ∧
      before.length = before'.length := by
  obtain ⟨rfl, reached, stuck⟩ := fails
  have front : List.Forall₂ Alike before (ws'.take before.length) := by
    simpa using List.forall₂_take before.length alike
  have back : List.Forall₂ Alike (word :: after) (ws'.drop before.length) := by
    simpa using List.forall₂_drop before.length alike
  obtain ⟨word', after', alikeWord, -, behind⟩ := List.forall₂_cons_left_iff.mp back
  refine ⟨ws'.take before.length, word', after', ⟨?_, ?_, ?_⟩, front.length_eq⟩
  · rw [← behind, List.take_append_drop]
  · rw [← run_alike front, reached]
  · rw [← step_alike alikeWord, stuck]

/-- What a word without a place is blamed for. -/
def State.blame : State → String → CardError
  | .fresh => .unknownColor
  | .colored => .unknownValue

theorem Blames.fault_eq (blames : Blames before word after state failure) :
    failure.fault = state.blame word := by
  cases blames <;> rfl

end Automaton

namespace Reading

open Automaton

/-- The reading of a command line fails at a word: the words in front of it can be read by themselves, with the
word they cannot, and the whole fails as they do. The reason is named by the word alone. -/
structure FailsAtWord (arguments before : List String) (word : String) (after : List String)
    (blame : String → CardError) : Prop where
  whole : arguments.flatMap Text.words = before ++ word :: after
  readable : ∃ lines, (ofArguments before).lines = .ok lines
  unreadable : ∃ entry, (ofArguments (before ++ [word])).lines = .error ⟨entry, blame word⟩
  failed : ∃ entry, (ofArguments arguments).lines = .error ⟨entry, blame word⟩

/-- Two command lines are read alike: both print the same lines, or both fail, at words of the same number and
of the same kind, each for its own word. -/
def Agree (arguments arguments' : List String) : Prop :=
  (∃ lines, (ofArguments arguments).lines = .ok lines ∧ (ofArguments arguments').lines = .ok lines) ∨
    ∃ before word after before' word' after' blame,
      (blame = CardError.unknownColor ∨ blame = CardError.unknownValue) ∧ before.length = before'.length ∧
      FailsAtWord arguments before word after blame ∧ FailsAtWord arguments' before' word' after' blame

variable {arguments arguments' before after : List String} {word : String} {state : State}

theorem lines_of_failsAt (allWords : ∀ word ∈ ws, IsWord word)
    (fails : FailsAt .fresh ws before word after state) :
    ∃ entry, (ofWords ws).lines = .error ⟨entry, state.blame word⟩ := by
  obtain ⟨failure, failed, blames⟩ := outcome_of_failsAt allWords fails
  exact ⟨failure.entry, by rw [lines_eq_error_iff.mpr failed, ← blames.fault_eq]⟩

/-- Where the automaton fails, the reading fails. -/
theorem failsAtWord_of_failsAt
    (fails : FailsAt .fresh (arguments.flatMap Text.words) before word after state) :
    FailsAtWord arguments before word after state.blame := by
  have allWords : ∀ w ∈ before ++ word :: after, IsWord w := by
    rw [← fails.whole]
    exact Text.isWord_of_mem_flatMap_words
  have upTo : ∀ w ∈ before ++ [word], IsWord w := by
    intro w member
    apply allWords
    rw [List.append_cons]
    exact List.mem_append_left after member
  have wordsBefore : ∀ w ∈ before, IsWord w := fun w member => upTo w (List.mem_append_left [word] member)
  refine ⟨fails.whole, ?_, ?_, lines_of_failsAt Text.isWord_of_mem_flatMap_words fails⟩
  · have accepted : run .fresh before ≠ none := by
      rw [fails.reached]
      exact Option.some_ne_none state
    obtain ⟨cards, isRead⟩ := exists_cards_of_run wordsBefore accepted
    rw [ofArguments_eq_ofWords, Text.flatMap_words wordsBefore]
    exact ⟨_, lines_eq_ok_iff.mpr ⟨cards, isRead, rfl⟩⟩
  · rw [ofArguments_eq_ofWords, Text.flatMap_words upTo]
    exact lines_of_failsAt upTo ⟨rfl, fails.reached, fails.stuck⟩

/-- Command lines whose words mean the same are read alike. -/
theorem agree_of_alike
    (alike : List.Forall₂ Alike (arguments.flatMap Text.words) (arguments'.flatMap Text.words)) :
    Agree arguments arguments' := by
  have allWords : ∀ word ∈ arguments.flatMap Text.words, IsWord word := Text.isWord_of_mem_flatMap_words
  have allWords' : ∀ word ∈ arguments'.flatMap Text.words, IsWord word := Text.isWord_of_mem_flatMap_words
  by_cases rejected : run .fresh (arguments.flatMap Text.words) = none
  · right
    obtain ⟨before, word, after, state, fails⟩ := run_eq_none_iff.mp rejected
    obtain ⟨before', word', after', fails', sameNumber⟩ := fails.of_alike alike
    refine ⟨before, word, after, before', word', after', state.blame, ?_, sameNumber,
      failsAtWord_of_failsAt fails, failsAtWord_of_failsAt fails'⟩
    cases state with
    | fresh => exact Or.inl rfl
    | colored => exact Or.inr rfl
  · left
    obtain ⟨cards, isRead⟩ := exists_cards_of_run allWords rejected
    have isRead' := outcome_ofWords_of_alike allWords allWords' alike isRead
    rw [ofArguments_eq_ofWords, ofArguments_eq_ofWords]
    exact ⟨_, lines_eq_ok_iff.mpr ⟨cards, isRead, rfl⟩, lines_eq_ok_iff.mpr ⟨cards, isRead', rfl⟩⟩

-- Case matters neither for colors nor for actions, and an action has several tags.
example : (ofArguments ["rEd", "draw2", "wild4+"]).lines = (ofArguments ["RED +2 Wild_Draw_Four"]).lines := by
  rfl

/-- **Other spellings.** Two command lines of equally many words, which differ from word to word in letter case at
most, or as two tags of one color, or as two tags of one value, are read alike. In particular two command lines
are read alike whose arguments differ in letter case only. -/
theorem agree_of_respelled (arguments arguments' : List String) :
    (List.Forall₂ Respelled (arguments.flatMap Text.words) (arguments'.flatMap Text.words) →
      Agree arguments arguments') ∧
    (List.Forall₂ EqualUpToCase arguments arguments' → Agree arguments arguments') := by
  constructor
  · intro respelled
    exact agree_of_alike (respelled.imp fun _ _ => Respelled.alike)
  · intro same
    have words : List.Forall₂ EqualUpToCase (arguments.flatMap Text.words) (arguments'.flatMap Text.words) :=
      List.rel_flatMap same fun _ _ => EqualUpToCase.words
    apply agree_of_alike
    exact words.imp fun _ _ sameWord => Respelled.alike (Or.inl sameWord)

end Reading

end Uno
