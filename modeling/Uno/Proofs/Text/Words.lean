import Mathlib.Data.List.TakeWhile
import Uno.Text.Words

/-!
# Words and the blanks around them

Taking a text apart into words forgets its blanks. The results of this file go the other way: they say what
a text with given words looks like. A text without words is a run of blanks. A text with a first word is a run
of blanks, that word, and a remainder that is empty or begins with a blank; the other words are those of the
remainder. Every statement about the words of a text follows from these two.

## Main definitions

* `Text.AllBlank` — a text of blanks only
* `Text.IsWord` — a text that can be a word
* `Text.Breaks` — a text that can stand directly behind a word
* `Text.SetApart` — a text that is made of others, with blanks between them

## Main results

* `Text.words_eq_nil_iff`, `Text.words_eq_cons_iff` — the texts without words, and those with a given first word
* `Text.words_eq_singleton_iff`, `Text.words_eq_pair_iff` — the texts of one word and of two
* `Text.words_eq_cons_cons_iff`, `Text.words_eq_cons_cons_cons_iff` — the texts with two given words in front, and
  with three
* `Text.isWord_of_mem_words` — what is read as a word is one
* `Text.exists_word_of_head?` — a text that does not begin with a blank begins with a word
* `Text.words_joinWords` — words that are set one space apart are read back
* `Text.SetApart.words_eq` — the words of texts that are set apart by blanks
-/

namespace Uno.Text

/-- A text of blanks only. It may be empty. -/
def AllBlank (text : String) : Prop :=
  ∀ c ∈ text.toList, isBlank c = true

instance : DecidablePred AllBlank := fun text =>
  decidable_of_iff (text.toList.all isBlank = true) List.all_eq_true

/-- A text that can be a word: it has a character, and no character of it is blank. -/
structure IsWord (text : String) : Prop where
  nonempty : text.toList ≠ []
  noBlank : ∀ c ∈ text.toList, isBlank c = false

instance : DecidablePred IsWord := fun text =>
  decidable_of_iff (text.toList ≠ [] ∧ text.toList.all (!isBlank ·) = true)
    ⟨fun ⟨nonempty, noBlank⟩ => ⟨nonempty, by simpa using noBlank⟩,
      fun isWord => ⟨isWord.nonempty, by simpa using isWord.noBlank⟩⟩

/-- A text that can stand directly behind a word: it is empty or begins with a blank. -/
def Breaks (text : String) : Prop :=
  ∀ c ∈ text.toList.head?, isBlank c = true

variable {text gap word rest : String} {ws : List String}

theorem AllBlank.breaks (blank : AllBlank text) : Breaks text :=
  fun c first => blank c (List.mem_of_mem_head? first)

/-- A text that begins with a word does not begin with a blank. -/
theorem IsWord.begins (isWord : IsWord word) : ∀ c ∈ (word ++ rest).toList.head?, isBlank c = false := by
  intro c first
  obtain ⟨d, ds, isFirst⟩ := List.exists_cons_of_ne_nil isWord.nonempty
  have same : d = c := by simpa [isFirst] using first
  exact isWord.noBlank c (by simp [isFirst, same])

/-- What stands at the beginning of a word is a word, unless it is empty. -/
theorem IsWord.take {bound : Nat} (isWord : IsWord word) (positive : bound ≠ 0) :
    IsWord (String.ofList (word.toList.take bound)) := by
  constructor
  · simpa [positive] using isWord.nonempty
  · rw [String.toList_ofList]
    exact fun c member => isWord.noBlank c (List.mem_of_mem_take member)

/-- The visible ASCII characters are not blank. -/
theorem isBlank_of_visible {c : Char} (visible : 33 ≤ c.toNat ∧ c.toNat ≤ 126) :
    isBlank c = false := by
  have outside : ∀ range ∈ blankRanges, range.2 < 33 ∨ 126 < range.1 := by decide
  rw [Bool.eq_false_iff, ne_eq, isBlank_iff]
  rintro ⟨range, listed, within⟩
  have apart := outside range listed
  omega

@[simp] theorem allBlank_empty : AllBlank "" := by
  intro c member
  contradiction

@[simp] theorem allBlank_space : AllBlank " " := by
  intro c member
  have isSpace : c ∈ [' '] := member
  rw [List.mem_singleton.mp isSpace]
  rfl

theorem breaks_space_append (text : String) : Breaks (" " ++ text) := by
  intro c first
  rw [String.toList_append] at first
  have isSpace : c ∈ some ' ' := first
  rw [← Option.mem_some_iff.mp isSpace]
  rfl

/-! ### Taking words off the front -/

theorem wordChars_append_of_blank {gap : List Char} (blank : ∀ c ∈ gap, isBlank c = true)
    (cs : List Char) : wordChars (gap ++ cs) = wordChars cs := by
  induction gap with
  | nil => rfl
  | cons b gap ih =>
    have isBlank_b := blank b List.mem_cons_self
    have later := ih fun c member => blank c (List.mem_cons_of_mem b member)
    -- A blank ends the empty run of characters in front of it, and an empty run is no word.
    simpa [later] using wordChars_append_cons [] (gap ++ cs) isBlank_b

/-- Blanks in front of a text add no word. -/
theorem words_append_of_allBlank (blank : AllBlank gap) (text : String) :
    words (gap ++ text) = words text := by
  rw [words, String.toList_append, wordChars_append_of_blank blank]
  rfl

/-- A word in front of a text that breaks it off is the first of the words. -/
theorem words_append_of_isWord (isWord : IsWord word) (breaks : Breaks rest) :
    words (word ++ rest) = word :: words rest := by
  have alone := wordChars_eq_singleton isWord.nonempty isWord.noBlank
  have first : wordChars (word ++ rest).toList = word.toList :: wordChars rest.toList := by
    rw [String.toList_append]
    cases h : rest.toList with
    | nil => simp [alone]
    | cons c cs =>
      -- The blank `c` ends the word, and in front of what follows it makes no difference.
      have isBlank_c : isBlank c = true := breaks c (by simp [h])
      have dropped := wordChars_append_cons [] cs isBlank_c
      rw [List.nil_append, wordChars_nil, List.nil_append] at dropped
      rw [wordChars_append_cons _ _ isBlank_c, alone, dropped]
      rfl
  rw [words, first, List.map_cons, String.ofList_toList]
  rfl

/-- A text is a run of blanks, or it has a first word. -/
theorem allBlank_or_exists_word (text : String) :
    AllBlank text ∨
      ∃ gap word rest, text = gap ++ word ++ rest ∧ AllBlank gap ∧ IsWord word ∧ Breaks rest := by
  -- The text is cut twice: where its first blanks end, and where the characters behind them are blank again.
  let body := text.toList.dropWhile isBlank
  have blanks : ∀ c ∈ text.toList.takeWhile isBlank, isBlank c = true :=
    fun c member => List.mem_takeWhile_imp member
  have whole : text.toList.takeWhile isBlank ++ body = text.toList :=
    List.takeWhile_append_dropWhile
  cases h : body with
  | nil =>
    left
    intro c member
    rw [← whole, h, List.append_nil] at member
    exact blanks c member
  | cons c cs =>
    right
    -- The blanks end at `c`, so `c` belongs to the word.
    have notBlank : isBlank c = false := by
      have := List.head?_dropWhile_not isBlank text.toList
      simpa [body, h] using this
    refine ⟨String.ofList (text.toList.takeWhile isBlank),
      String.ofList (body.takeWhile (!isBlank ·)), String.ofList (body.dropWhile (!isBlank ·)),
      ?_, ?_, ⟨?_, ?_⟩, ?_⟩
    · rw [← String.toList_inj]
      simp [List.append_assoc, whole]
    · intro c member
      rw [String.toList_ofList] at member
      exact blanks c member
    · simp [h, notBlank]
    · intro c member
      rw [String.toList_ofList] at member
      simpa using List.mem_takeWhile_imp member
    · intro c first
      rw [String.toList_ofList] at first
      have := List.head?_dropWhile_not (!isBlank ·) body
      rw [first] at this
      simpa using this

/-! ### The texts with given words -/

/-- The texts without words are the runs of blanks. -/
theorem words_eq_nil_iff : words text = [] ↔ AllBlank text := by
  constructor
  · intro noWords
    rcases allBlank_or_exists_word text with blank | ⟨gap, word, rest, rfl, blank, isWord, breaks⟩
    · exact blank
    · -- A first word would be among the words.
      rw [String.append_assoc, words_append_of_allBlank blank,
        words_append_of_isWord isWord breaks] at noWords
      contradiction
  · intro blank
    have := words_append_of_allBlank blank ""
    rwa [String.append_empty] at this

/-- The texts with a given first word: blanks, the word, and a remainder that has the other words and is
broken off from it. -/
theorem words_eq_cons_iff :
    words text = word :: ws ↔
      ∃ gap rest, text = gap ++ word ++ rest ∧ AllBlank gap ∧ IsWord word ∧ Breaks rest ∧
        words rest = ws := by
  constructor
  · intro hasWords
    rcases allBlank_or_exists_word text with blank | ⟨gap, first, rest, rfl, blank, isWord, breaks⟩
    · rw [words_eq_nil_iff.mpr blank] at hasWords
      contradiction
    · rw [String.append_assoc, words_append_of_allBlank blank,
        words_append_of_isWord isWord breaks] at hasWords
      obtain ⟨rfl, rfl⟩ := List.cons.inj hasWords
      exact ⟨gap, rest, rfl, blank, isWord, breaks, rfl⟩
  · intro cut
    obtain ⟨gap, rest, rfl, blank, isWord, breaks, rfl⟩ := cut
    rw [String.append_assoc, words_append_of_allBlank blank, words_append_of_isWord isWord breaks]

/-- A text that does not begin with a blank has a first word, and begins with it. -/
theorem exists_word_of_head? {c : Char} (begins : text.toList.head? = some c) (notBlank : isBlank c = false) :
    ∃ word ∈ words text, word.toList.head? = some c := by
  rcases allBlank_or_exists_word text with blank | ⟨gap, word, rest, rfl, blank, isWord, breaks⟩
  · have isBlank_c : isBlank c = true := blank c (List.mem_of_mem_head? begins)
    exact absurd (notBlank.symm.trans isBlank_c) Bool.false_ne_true
  · obtain ⟨d, ds, written⟩ := List.exists_cons_of_ne_nil isWord.nonempty
    have hasFirst : words (gap ++ word ++ rest) = word :: words rest :=
      words_eq_cons_iff.mpr ⟨gap, rest, rfl, blank, isWord, breaks, rfl⟩
    refine ⟨word, by simp [hasFirst], ?_⟩
    cases h : gap.toList with
    | nil => simpa [h, written] using begins
    | cons b bs =>
      -- The text would begin with a blank.
      have same : b = c := by simpa [h] using begins
      have isBlank_b : isBlank b = true := blank b (by simp [h])
      rw [same, notBlank] at isBlank_b
      contradiction

/-- What is read as a word is one. -/
theorem isWord_of_mem_words (member : word ∈ words text) : IsWord word := by
  -- The induction is on the list of words. It is applied to the text behind the first word, not to `text`.
  induction h : words text generalizing text with
  | nil =>
    rw [h] at member
    contradiction
  | cons first others ih =>
    obtain ⟨gap, rest, -, -, isWord, -, sameWords⟩ := words_eq_cons_iff.mp h
    rw [h, List.mem_cons] at member
    rcases member with rfl | later
    · exact isWord
    · apply ih _ sameWords
      rw [sameWords]
      exact later

/-- What is read as a word in one of several texts is a word. -/
theorem isWord_of_mem_flatMap_words {texts : List String} :
    ∀ word ∈ texts.flatMap words, IsWord word := by
  intro word member
  obtain ⟨text, -, member⟩ := List.mem_flatMap.mp member
  exact isWord_of_mem_words member

/-- A word is its only word. -/
theorem words_of_isWord (isWord : IsWord word) : words word = [word] := by
  have breaks : Breaks "" := by
    intro c first
    contradiction
  have alone := words_append_of_isWord isWord breaks
  rwa [String.append_empty] at alone

/-- The texts of one word. -/
theorem words_eq_singleton_iff :
    words text = [word] ↔
      ∃ gap gap', text = gap ++ word ++ gap' ∧ AllBlank gap ∧ IsWord word ∧ AllBlank gap' := by
  rw [words_eq_cons_iff]
  constructor
  · intro cut
    obtain ⟨gap, rest, rfl, blank, isWord, -, noWords⟩ := cut
    exact ⟨gap, rest, rfl, blank, isWord, words_eq_nil_iff.mp noWords⟩
  · intro cut
    obtain ⟨gap, gap', rfl, blank, isWord, blank'⟩ := cut
    exact ⟨gap, gap', rfl, blank, isWord, blank'.breaks, words_eq_nil_iff.mpr blank'⟩

/-- A run of blanks in front of a word breaks off what stands before it, unless the run is empty. -/
theorem breaks_append_iff (blank : AllBlank gap) (isWord : IsWord word) :
    Breaks (gap ++ word ++ rest) ↔ gap ≠ "" := by
  rw [String.append_assoc]
  constructor
  · intro breaks noGap
    rw [noGap, String.empty_append] at breaks
    -- Without a gap the text would begin with the first character of the word.
    obtain ⟨c, cs, isFirst⟩ := List.exists_cons_of_ne_nil isWord.nonempty
    have first : c ∈ (word ++ rest).toList.head? := by simp [isFirst]
    exact Bool.false_ne_true ((isWord.begins c first).symm.trans (breaks c first))
  · intro nonempty c first
    obtain ⟨b, bs, isFirst⟩ := List.exists_cons_of_ne_nil (mt String.toList_eq_nil_iff.mp nonempty)
    have same : b = c := by simpa [isFirst] using first
    exact blank c (by simp [isFirst, same])

/-- What can stand behind a word and has a given first word itself: at least one blank, the word, and a remainder
that has the other words. -/
theorem breaks_and_words_eq_cons_iff :
    Breaks text ∧ words text = word :: ws ↔
      ∃ gap rest, text = gap ++ word ++ rest ∧ AllBlank gap ∧ gap ≠ "" ∧ IsWord word ∧ Breaks rest ∧
        words rest = ws := by
  rw [words_eq_cons_iff]
  constructor
  · intro behind
    obtain ⟨breaks, gap, rest, rfl, blank, isWord, breaks', sameWords⟩ := behind
    exact ⟨gap, rest, rfl, blank, (breaks_append_iff blank isWord).mp breaks, isWord, breaks', sameWords⟩
  · intro cut
    obtain ⟨gap, rest, rfl, blank, nonempty, isWord, breaks', sameWords⟩ := cut
    exact ⟨(breaks_append_iff blank isWord).mpr nonempty, gap, rest, rfl, blank, isWord, breaks', sameWords⟩

/-- The texts with two given words in front of others. The blanks between the two are what keeps them apart, so
there is at least one. -/
theorem words_eq_cons_cons_iff {second : String} :
    words text = word :: second :: ws ↔
      ∃ gap gap' rest, text = gap ++ word ++ gap' ++ second ++ rest ∧ AllBlank gap ∧ IsWord word ∧
        AllBlank gap' ∧ gap' ≠ "" ∧ IsWord second ∧ Breaks rest ∧ words rest = ws := by
  rw [words_eq_cons_iff]
  constructor
  · intro cut
    obtain ⟨gap, _, rfl, blank, isWord, behind⟩ := cut
    obtain ⟨gap', rest, rfl, blank', nonempty, isSecond, breaks, sameWords⟩ :=
      breaks_and_words_eq_cons_iff.mp behind
    exact ⟨gap, gap', rest, by simp only [String.append_assoc], blank, isWord, blank', nonempty, isSecond,
      breaks, sameWords⟩
  · intro cut
    obtain ⟨gap, gap', rest, rfl, blank, isWord, blank', nonempty, isSecond, breaks, sameWords⟩ := cut
    refine ⟨gap, gap' ++ second ++ rest, by simp only [String.append_assoc], blank, isWord, ?_⟩
    exact breaks_and_words_eq_cons_iff.mpr ⟨gap', rest, rfl, blank', nonempty, isSecond, breaks, sameWords⟩

/-- The texts with three given words in front of others. -/
theorem words_eq_cons_cons_cons_iff {second third : String} :
    words text = word :: second :: third :: ws ↔
      ∃ gap gap' gap'' rest, text = gap ++ word ++ gap' ++ second ++ gap'' ++ third ++ rest ∧
        AllBlank gap ∧ IsWord word ∧ AllBlank gap' ∧ gap' ≠ "" ∧ IsWord second ∧
        AllBlank gap'' ∧ gap'' ≠ "" ∧ IsWord third ∧ Breaks rest ∧ words rest = ws := by
  rw [words_eq_cons_cons_iff]
  constructor
  · intro cut
    obtain ⟨gap, gap', _, rfl, blank, isWord, blank', nonempty, isSecond, behind⟩ := cut
    obtain ⟨gap'', rest, rfl, blank'', nonempty', isThird, breaks, sameWords⟩ :=
      breaks_and_words_eq_cons_iff.mp behind
    exact ⟨gap, gap', gap'', rest, by simp only [String.append_assoc], blank, isWord, blank', nonempty, isSecond,
      blank'', nonempty', isThird, breaks, sameWords⟩
  · intro cut
    obtain ⟨gap, gap', gap'', rest, rfl, blank, isWord, blank', nonempty, isSecond, blank'', nonempty', isThird,
      breaks, sameWords⟩ := cut
    refine ⟨gap, gap', gap'' ++ third ++ rest, by simp only [String.append_assoc], blank, isWord, blank', nonempty,
      isSecond, ?_⟩
    exact breaks_and_words_eq_cons_iff.mpr ⟨gap'', rest, rfl, blank'', nonempty', isThird, breaks, sameWords⟩

/-- The texts of two words. -/
theorem words_eq_pair_iff {second : String} :
    words text = [word, second] ↔
      ∃ gap gap' gap'', text = gap ++ word ++ gap' ++ second ++ gap'' ∧ AllBlank gap ∧ IsWord word ∧
        AllBlank gap' ∧ gap' ≠ "" ∧ IsWord second ∧ AllBlank gap'' := by
  rw [words_eq_cons_cons_iff]
  simp only [words_eq_nil_iff]
  constructor
  · intro cut
    obtain ⟨gap, gap', gap'', whole, blank, isWord, blank', nonempty, isSecond, -, blank''⟩ := cut
    exact ⟨gap, gap', gap'', whole, blank, isWord, blank', nonempty, isSecond, blank''⟩
  · intro cut
    obtain ⟨gap, gap', gap'', whole, blank, isWord, blank', nonempty, isSecond, blank''⟩ := cut
    exact ⟨gap, gap', gap'', whole, blank, isWord, blank', nonempty, isSecond, blank''.breaks, blank''⟩

/-! ### Words set one space apart -/

@[simp] theorem joinWords_singleton (word : String) : joinWords [word] = word :=
  String.intercalate_singleton

theorem joinWords_cons_cons (first second : String) (ws : List String) :
    joinWords (first :: second :: ws) = first ++ (" " ++ joinWords (second :: ws)) := by
  rw [joinWords, String.intercalate_cons_cons, String.append_assoc]
  rfl

theorem joinWords_pair (first second : String) : joinWords [first, second] = first ++ " " ++ second := by
  rw [joinWords_cons_cons, joinWords_singleton, String.append_assoc]

/-- Words that are set one space apart are read back. -/
theorem words_joinWords (allWords : ∀ word ∈ ws, IsWord word) : words (joinWords ws) = ws := by
  induction ws with
  | nil => rfl
  | cons first others ih =>
    have isFirst := allWords first List.mem_cons_self
    have readBack := ih fun word member => allWords word (List.mem_cons_of_mem first member)
    cases others with
    | nil => rw [joinWords_singleton, words_of_isWord isFirst]
    | cons second others =>
      -- The space ends the first word, and in front of the others it makes no difference.
      rw [joinWords_cons_cons, words_append_of_isWord isFirst (breaks_space_append _),
        words_append_of_allBlank allBlank_space, readBack]

/-- Words that come one by one are their own words. -/
theorem flatMap_words (allWords : ∀ word ∈ ws, IsWord word) : ws.flatMap words = ws := by
  induction ws with
  | nil => rfl
  | cons first others ih =>
    rw [List.flatMap_cons, words_of_isWord (allWords first List.mem_cons_self),
      ih fun word member => allWords word (List.mem_cons_of_mem first member)]
    rfl

/-! ### Texts set apart by blanks -/

/-- Blanks between two texts keep the words of one apart from those of the other. -/
theorem words_append_gap_append (blank : AllBlank gap) (nonempty : gap ≠ "") (left right : String) :
    words (left ++ gap ++ right) = words left ++ words right := by
  obtain ⟨b, bs, isFirst⟩ := List.exists_cons_of_ne_nil (mt String.toList_eq_nil_iff.mp nonempty)
  have isBlank_b : isBlank b = true := blank b (by simp [isFirst])
  have others : ∀ c ∈ bs, isBlank c = true := fun c member => blank c (by simp [isFirst, member])
  -- The first blank cuts the text, and the other blanks add no word to what stands behind.
  have cut : wordChars (left ++ gap ++ right).toList = wordChars left.toList ++ wordChars right.toList := by
    rw [String.append_assoc, String.toList_append, String.toList_append, isFirst, List.cons_append,
      wordChars_append_cons _ _ isBlank_b, wordChars_append_of_blank others]
  rw [words, cut, List.map_append]
  rfl

/-- Blanks behind a text add no word. -/
theorem words_append_allBlank (blank : AllBlank gap) (text : String) : words (text ++ gap) = words text := by
  by_cases empty : gap = ""
  · rw [empty, String.append_empty]
  · have apart := words_append_gap_append blank empty text ""
    have noWords : words "" = [] := words_eq_nil_iff.mpr allBlank_empty
    rwa [String.append_empty, noWords, List.append_nil] at apart

/-- A text in which the given texts stand one after the other, with a run of blanks between neighbours. -/
inductive SetApart : List String → String → Prop
  | nil : SetApart [] ""
  | singleton (item : String) : SetApart [item] item
  | cons {item gap next text : String} {items : List String} (blank : AllBlank gap) (nonempty : gap ≠ "")
    (others : SetApart (next :: items) text) : SetApart (item :: next :: items) (item ++ gap ++ text)

/-- Texts that are set apart have the words that they have one by one. -/
theorem SetApart.words_eq {items : List String} (apart : SetApart items text) :
    words text = items.flatMap words := by
  induction apart with
  | nil => rfl
  | singleton item => exact (List.flatMap_singleton words item).symm
  | cons blank nonempty _ ih =>
    rw [words_append_gap_append blank nonempty, ih]
    exact List.flatMap_cons.symm

end Uno.Text
