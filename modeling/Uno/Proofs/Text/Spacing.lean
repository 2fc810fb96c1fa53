import Uno.Proofs.Text.Words

/-!
# Texts with one space between their words

Among the texts with given words there is one that spends no blank in vain: no blank at either end, and between
two words a single space. It is the text in which the words are joined, and it can be told from the others
character by character, without taking any text apart.

## Main definitions

* `Text.SingleSpaced` — a text whose blanks are single spaces between other characters

## Main results

* `Text.SingleSpaced.joinWords_words` — such a text is the join of its words
* `Text.singleSpaced_joinWords` — joined words are such a text
* `Text.eq_joinWords_iff` — the join of given words, described by its characters and its words
-/

namespace Uno.Text

/-- A text whose blanks are single spaces, none of them at an end of the text. -/
structure SingleSpaced (text : String) : Prop where
  /-- The text does not begin with a blank. -/
  begins : ∀ c ∈ text.toList.head?, isBlank c = false
  /-- The text does not end with a blank. -/
  ends : ∀ c ∈ text.toList.getLast?, isBlank c = false
  /-- The only blank is the space. -/
  onlySpaces : ∀ c ∈ text.toList, isBlank c = true → c = ' '
  /-- No blank follows a blank. -/
  apart : ∀ before blank next after, text.toList = before ++ blank :: next :: after →
    isBlank blank = true → isBlank next = false

variable {text gap word rest : String} {ws : List String}

/-! ### From the spacing to the words -/

namespace SingleSpaced

/-- There are no blanks in front. -/
theorem gap_eq_empty (spaced : SingleSpaced (gap ++ rest)) (blank : AllBlank gap) : gap = "" := by
  cases h : gap.toList with
  | nil => exact String.toList_eq_nil_iff.mp h
  | cons c cs =>
    have isBlank_c : isBlank c = true := blank c (by simp [h])
    have notBlank : isBlank c = false := spaced.begins c (by simp [h])
    exact absurd (notBlank.symm.trans isBlank_c) Bool.false_ne_true

/-- There are no blanks at the end. -/
theorem end_eq_empty (spaced : SingleSpaced (text ++ gap)) (blank : AllBlank gap) : gap = "" := by
  rcases List.eq_nil_or_concat gap.toList with h | ⟨cs, c, h⟩
  · exact String.toList_eq_nil_iff.mp h
  · have isBlank_c : isBlank c = true := blank c (by simp [h])
    have notBlank : isBlank c = false := spaced.ends c (by simp [h])
    exact absurd (notBlank.symm.trans isBlank_c) Bool.false_ne_true

/-- A run of blanks inside is one space. -/
theorem gap_eq_space (spaced : SingleSpaced (text ++ (gap ++ rest))) (blank : AllBlank gap)
    (nonempty : gap ≠ "") : gap = " " := by
  rw [← String.toList_inj]
  cases h : gap.toList with
  | nil => exact absurd (String.toList_eq_nil_iff.mp h) nonempty
  | cons b bs =>
    have isBlank_b : isBlank b = true := blank b (by simp [h])
    have isSpace : b = ' ' := spaced.onlySpaces b (by simp [h]) isBlank_b
    cases bs with
    | nil =>
      rw [isSpace]
      rfl
    | cons c cs =>
      have isBlank_c : isBlank c = true := blank c (by simp [h])
      have notBlank : isBlank c = false :=
        spaced.apart text.toList b c (cs ++ rest.toList) (by simp [h]) isBlank_b
      exact absurd (notBlank.symm.trans isBlank_c) Bool.false_ne_true

/-- What follows behind a gap is spaced in the same way, if it begins with no blank. -/
theorem of_append (spaced : SingleSpaced (text ++ rest))
    (begins : ∀ c ∈ rest.toList.head?, isBlank c = false) : SingleSpaced rest where
  begins := begins
  ends := by
    intro c last
    apply spaced.ends
    rw [String.toList_append, List.getLast?_append, Option.mem_def.mp last]
    rfl
  onlySpaces := by
    intro c member
    apply spaced.onlySpaces
    rw [String.toList_append]
    exact List.mem_append_right _ member
  apart := by
    intro before blank next after whole
    apply spaced.apart (text.toList ++ before) blank next after
    rw [String.toList_append, whole, List.append_assoc]

/-- A text with single spaces is the join of its words. -/
theorem joinWords_words (spaced : SingleSpaced text) : joinWords (words text) = text := by
  induction h : words text generalizing text with
  | nil =>
    rw [← String.append_empty (s := text)] at spaced
    obtain rfl := spaced.gap_eq_empty (words_eq_nil_iff.mp h)
    rfl
  | cons first others ih =>
    obtain ⟨gap, rest, rfl, blank, isWord, breaks, sameWords⟩ := words_eq_cons_iff.mp h
    rw [String.append_assoc] at spaced
    obtain rfl := spaced.gap_eq_empty blank
    rw [String.empty_append] at spaced ⊢
    cases others with
    | nil =>
      obtain rfl := spaced.end_eq_empty (words_eq_nil_iff.mp sameWords)
      rw [joinWords_singleton, String.append_empty]
    | cons second others =>
      obtain ⟨gap', rest', rfl, blank', isSecond, -, -⟩ := words_eq_cons_iff.mp sameWords
      have nonempty : gap' ≠ "" := (breaks_append_iff blank' isSecond).mp breaks
      rw [String.append_assoc] at spaced sameWords ⊢
      obtain rfl := spaced.gap_eq_space blank' nonempty
      -- Behind the space there is a shorter text of the same kind.
      rw [words_append_of_allBlank blank'] at sameWords
      rw [← String.append_assoc] at spaced
      rw [joinWords_cons_cons, ih (spaced.of_append isSecond.begins) sameWords]

end SingleSpaced

/-! ### From the words to the spacing -/

theorem singleSpaced_empty : SingleSpaced "" where
  begins := by simp
  ends := by simp
  onlySpaces := by simp
  apart := by simp

/-- A word has no blanks at all. -/
theorem IsWord.singleSpaced (isWord : IsWord word) : SingleSpaced word where
  begins := fun c first => isWord.noBlank c (List.mem_of_mem_head? first)
  ends := fun c last => isWord.noBlank c (List.mem_of_mem_getLast? last)
  onlySpaces := by
    intro c member isBlank_c
    rw [isWord.noBlank c member] at isBlank_c
    contradiction
  apart := by
    intro before blank next after whole isBlank_blank
    rw [isWord.noBlank blank (by simp [whole])] at isBlank_blank
    contradiction

/-- A word may be put in front, one space apart. -/
theorem SingleSpaced.cons_space (spaced : SingleSpaced text) (nonempty : text ≠ "") (isWord : IsWord word) :
    SingleSpaced (word ++ (" " ++ text)) where
  begins := isWord.begins
  ends := by
    intro c last
    apply spaced.ends
    obtain ⟨d, ds, written⟩ := List.exists_cons_of_ne_nil (mt String.toList_eq_nil_iff.mp nonempty)
    simpa [written] using last
  onlySpaces := by
    intro c member isBlank_c
    simp only [String.toList_append, List.mem_append] at member
    rcases member with inWord | isSpace | inText
    · rw [isWord.noBlank c inWord] at isBlank_c
      contradiction
    · exact List.mem_singleton.mp isSpace
    · exact spaced.onlySpaces c inText isBlank_c
  apart := by
    intro before blank next after whole isBlank_blank
    have cut : word.toList ++ ' ' :: text.toList = before ++ blank :: next :: after := by simpa using whole
    -- The blank is not in the word. It is the space behind the word, or it is in the text.
    rcases List.append_eq_append_iff.mp cut with
      ⟨_ | ⟨c, cs⟩, rfl, behind⟩ | ⟨_ | ⟨c, cs⟩, inWord, behind⟩
    · obtain ⟨-, first⟩ := List.cons.inj behind
      exact spaced.begins next (by simp [first])
    · obtain ⟨-, inText⟩ := List.cons.inj behind
      exact spaced.apart cs blank next after inText isBlank_blank
    · obtain ⟨-, first⟩ := List.cons.inj behind
      exact spaced.begins next (by simp [← first])
    · obtain ⟨rfl, -⟩ := List.cons.inj behind
      rw [isWord.noBlank blank (by simp [inWord])] at isBlank_blank
      contradiction

/-- Words are joined with single spaces. -/
theorem singleSpaced_joinWords (allWords : ∀ word ∈ ws, IsWord word) : SingleSpaced (joinWords ws) := by
  induction ws with
  | nil => exact singleSpaced_empty
  | cons first others ih =>
    rw [List.forall_mem_cons] at allWords
    cases others with
    | nil =>
      rw [joinWords_singleton]
      exact allWords.1.singleSpaced
    | cons second others =>
      have nonempty : joinWords (second :: others) ≠ "" := by
        intro empty
        have readBack := words_joinWords allWords.2
        rw [empty] at readBack
        exact List.cons_ne_nil second others readBack.symm
      rw [joinWords_cons_cons]
      exact (ih allWords.2).cons_space nonempty allWords.1

/-- The join of words is the one text with single spaces that has these words. -/
theorem eq_joinWords_iff (allWords : ∀ word ∈ ws, IsWord word) :
    text = joinWords ws ↔ SingleSpaced text ∧ words text = ws := by
  constructor
  · intro joined
    rw [joined]
    exact ⟨singleSpaced_joinWords allWords, words_joinWords allWords⟩
  · intro spaced
    obtain ⟨spaced, rfl⟩ := spaced
    exact spaced.joinWords_words.symm

end Uno.Text
