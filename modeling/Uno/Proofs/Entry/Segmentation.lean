import Mathlib.Data.List.Chain
import Mathlib.Data.List.ModifyLast
import Uno.Entry

/-!
# The only admissible way to cut words into entries

The entries of a sequence of words are formed by looking ahead: whether a word is an entry of its own depends on
the next word. They can as well be formed by looking back, one word after the other, where a word is put into
the last entry or opens a new one, and no entry before the last is ever touched again.

What the entries should be can be said without a word about how they are formed. They hold the words in their order, an
entry has one word or two, and a color tag never stands in second place. One more condition keeps an entry from being
closed too early: unless it begins with a color tag, an entry comes first or stands behind one that is full. These
conditions leave no choice. Where two ways to cut differ for the first time, one of them has an entry of one word where
the other has two words, and the second of them is forbidden on one side or the other, as it either is a color tag or is
not. That the entries are admissible is an invariant of the loop that looks back: one more word leaves an admissible
segmentation of one more word.

## Main definitions

* `Entry.push` — the entries with one more word
* `Entry.IsSegmentation` — the admissible ways to cut words into entries

## Main results

* `Entry.foldl_push_eq_ofWords` — looking back leads to the same entries as looking ahead
* `Entry.IsSegmentation.push`, `Entry.isSegmentation_foldl_push` — one more word, and a whole run
* `Entry.IsSegmentation.unique` — words can be cut in one admissible way only
* `Entry.isSegmentation_iff` — the entries of a sequence of words are that segmentation
* `Entry.flatten_ofWords`, `Entry.eq_of_mem_ofWords` — what they hold, and of what form they are
* `Entry.ofWords_append_of_opensBehind`, `Entry.ofWords_append_of_joins` — the entries of more words
-/

namespace Uno.Entry

/-! ### Looking back instead of ahead -/

/-- A word opens an entry behind those that have been formed if it is a color tag, or if the last of them has
two words already. -/
def opensBehind (entries : List Entry) (word : String) : Bool :=
  Color.isTag word || entries.getLast?.all (1 < ·.length)

/-- The entries with one more word, which opens an entry or joins the last one. -/
def push (entries : List Entry) (word : String) : List Entry :=
  if opensBehind entries word then entries ++ [[word]] else entries.modifyLast (· ++ [word])

theorem push_of_opensBehind {entries : List Entry} {word : String}
    (opens : opensBehind entries word = true) : push entries word = entries ++ [[word]] := by
  rw [push, if_pos opens]

/-- A word that is no color tag joins an entry of one word. -/
theorem push_of_not_isTag {entries : List Entry} {first word : String}
    (notTag : Color.isTag word = false) :
    push (entries ++ [[first]]) word = entries ++ [[first, word]] := by
  have joins : ¬ opensBehind (entries ++ [[first]]) word = true := by
    simp [opensBehind, notTag]
  rw [push, if_neg joins, List.modifyLast_concat]
  rfl

/-- Words that open an entry behind those that have been formed add their own entries to them. -/
theorem foldl_push_eq_append {ws : List String} {entries : List Entry}
    (opens : ∀ word ∈ ws.head?, opensBehind entries word = true) :
    ws.foldl push entries = entries ++ ofWords ws := by
  fun_induction ofWords ws generalizing entries with
  | case1 => rw [List.foldl_nil, List.append_nil]
  | case2 word => exact push_of_opensBehind (opens word rfl)
  | case3 first second rest isTag ih =>
    -- The first word is left alone, and the second opens its entry as a color tag.
    have opensSecond : ∀ word ∈ (second :: rest).head?, opensBehind (entries ++ [[first]]) word = true := by
      intro word isSecond
      obtain rfl := Option.mem_some_iff.mp isSecond
      rw [opensBehind, isTag, Bool.true_or]
    rw [List.foldl_cons, push_of_opensBehind (opens first rfl), ih opensSecond, List.append_assoc]
    rfl
  | case4 first second rest joins ih =>
    -- The entry of the first two words is full, so whatever comes next opens one.
    have full : ∀ word ∈ rest.head?, opensBehind (entries ++ [[first, second]]) word = true := by
      intro word _
      simp [opensBehind]
    rw [List.foldl_cons, List.foldl_cons, push_of_opensBehind (opens first rfl),
      push_of_not_isTag (eq_false_of_ne_true joins), ih full, List.append_assoc]
    rfl

/-- Forming the entries word by word, with a look at the last entry only, leads to the same entries as looking
ahead by one word. -/
theorem foldl_push_eq_ofWords (ws : List String) : ws.foldl push [] = ofWords ws := by
  apply foldl_push_eq_append
  intro word _
  simp [opensBehind]

/-! ### Admissible segmentations -/

/-- An entry may stand behind another one when it begins with a color tag, or when the other one is full. -/
def MayFollow (previous entry : Entry) : Prop :=
  ∀ first ∈ entry.head?, Color.isTag first = false → previous.length = 2

/-- The admissible ways to cut words into entries. -/
structure IsSegmentation (ws : List String) (entries : List Entry) : Prop where
  /-- No word is lost or doubled, and their order is kept. -/
  flatten_eq : entries.flatten = ws
  /-- An entry has one word or two. -/
  length_eq : ∀ entry ∈ entries, entry.length = 1 ∨ entry.length = 2
  /-- A second word is no color tag. -/
  second_not_tag : ∀ first second, [first, second] ∈ entries → Color.isTag second = false
  /-- Behind an entry that is not full, only a color tag opens an entry. -/
  chain : entries.IsChain MayFollow

variable {ws ws' rest : List String} {entries entries' : List Entry} {entry : Entry} {first second word : String}

/-- An entry of an admissible segmentation is a word alone or two words. -/
theorem IsSegmentation.eq_or_eq (admissible : IsSegmentation ws entries) (listed : entry ∈ entries) :
    (∃ word, entry = [word]) ∨ ∃ first second, entry = [first, second] := by
  rcases admissible.length_eq entry listed with one | two
  · exact Or.inl (List.length_eq_one_iff.mp one)
  · exact Or.inr (List.length_eq_two.mp two)

/-- Behind an admissible segmentation a word opens an entry, or there is a last entry of one word that it joins. -/
theorem IsSegmentation.opensBehind_or_joins (admissible : IsSegmentation ws entries) (word : String) :
    opensBehind entries word = true ∨
      Color.isTag word = false ∧ ∃ earlier first, entries = earlier ++ [[first]] := by
  cases isTag : Color.isTag word with
  | true =>
    left
    rw [opensBehind, isTag, Bool.true_or]
  | false =>
    rcases List.eq_nil_or_concat' entries with rfl | ⟨earlier, entry, rfl⟩
    · left
      simp [opensBehind]
    · rcases admissible.eq_or_eq (List.mem_append_right earlier List.mem_cons_self) with
        ⟨first, rfl⟩ | ⟨first, second, rfl⟩
      · exact Or.inr ⟨rfl, earlier, first, rfl⟩
      · left
        simp [opensBehind]

/-! ### One more word -/

theorem isSegmentation_nil : IsSegmentation [] [] where
  flatten_eq := rfl
  length_eq := by simp
  second_not_tag := by simp
  chain := List.isChain_nil

/-- A word that opens an entry extends an admissible segmentation. -/
theorem IsSegmentation.concat (admissible : IsSegmentation ws entries)
    (opens : opensBehind entries word = true) : IsSegmentation (ws ++ [word]) (entries ++ [[word]]) where
  flatten_eq := by simp [admissible.flatten_eq]
  length_eq := by
    intro entry listed
    rcases List.mem_append.mp listed with earlier | isLast
    · exact admissible.length_eq entry earlier
    · rw [List.mem_singleton.mp isLast]
      exact Or.inl rfl
  second_not_tag := by
    intro first second listed
    have earlier : [first, second] ∈ entries := by simpa using listed
    exact admissible.second_not_tag first second earlier
  chain := by
    apply admissible.chain.append (List.isChain_singleton [word])
    intro previous isLast entry isNext first begins notTag
    obtain rfl : [word] = entry := Option.some.inj isNext
    obtain rfl : word = first := Option.some.inj begins
    -- The word is no color tag, so it opens an entry because the last one has two words.
    have full : 1 < previous.length := by
      simpa [opensBehind, notTag, Option.mem_def.mp isLast] using opens
    have bound := admissible.length_eq previous (List.mem_of_mem_getLast? isLast)
    omega

/-- A word that is no color tag fills a last entry of one word, and the segmentation stays admissible. -/
theorem IsSegmentation.fill (admissible : IsSegmentation ws (entries ++ [[first]]))
    (notTag : Color.isTag word = false) : IsSegmentation (ws ++ [word]) (entries ++ [[first, word]]) where
  flatten_eq := by simp [← admissible.flatten_eq]
  length_eq := by
    intro entry listed
    rcases List.mem_append.mp listed with earlier | isLast
    · exact admissible.length_eq entry (List.mem_append_left _ earlier)
    · rw [List.mem_singleton.mp isLast]
      exact Or.inr rfl
  second_not_tag := by
    intro first' second listed
    rcases List.mem_append.mp listed with earlier | isLast
    · exact admissible.second_not_tag first' second (List.mem_append_left _ earlier)
    · obtain ⟨-, rfl⟩ : first' = first ∧ second = word := by simpa using isLast
      exact notTag
  chain := by
    -- The last entry begins with the same word as before, and what it may follow depends on no other.
    obtain ⟨earlier, -, link⟩ := List.isChain_append.mp admissible.chain
    apply earlier.append (List.isChain_singleton [first, word])
    intro previous isLast entry isNext
    obtain rfl : [first, word] = entry := Option.some.inj isNext
    exact link previous isLast [first] rfl

/-- One more word leaves an admissible segmentation, of one more word. -/
theorem IsSegmentation.push (admissible : IsSegmentation ws entries) (word : String) :
    IsSegmentation (ws ++ [word]) (push entries word) := by
  rcases admissible.opensBehind_or_joins word with opens | ⟨notTag, earlier, first, rfl⟩
  · rw [push_of_opensBehind opens]
    exact admissible.concat opens
  · rw [push_of_not_isTag notTag]
    exact admissible.fill notTag

/-- Putting words into entries one after the other leads to an admissible segmentation. -/
theorem isSegmentation_foldl_push (ws : List String) : IsSegmentation ws (ws.foldl Entry.push []) := by
  induction ws using List.reverseRecOn with
  | nil => exact isSegmentation_nil
  | append_singleton ws word ih =>
    rw [List.foldl_concat]
    exact ih.push word

/-! ### There is no other way -/

/-- What follows the first entry is admissible by itself. -/
theorem IsSegmentation.tail (admissible : IsSegmentation ws (entry :: entries)) :
    IsSegmentation entries.flatten entries where
  flatten_eq := rfl
  length_eq := fun later listed => admissible.length_eq later (List.mem_cons_of_mem entry listed)
  second_not_tag := fun first second listed =>
    admissible.second_not_tag first second (List.mem_cons_of_mem entry listed)
  chain := admissible.chain.tail

/-- Behind an entry of one word only a color tag can follow, as any other word would have joined it. -/
theorem IsSegmentation.isTag_of_single (admissible : IsSegmentation ws ([first] :: entries))
    (follows : entries.flatten = second :: rest) : Color.isTag second = true := by
  cases entries with
  | nil => contradiction
  | cons next later =>
    have link : MayFollow [first] next := admissible.chain.rel_head? rfl
    have begins : next.head? = some second := by
      rcases admissible.eq_or_eq (List.mem_cons_of_mem [first] List.mem_cons_self) with
        ⟨word, rfl⟩ | ⟨word, word', rfl⟩
      · exact congrArg some (List.cons.inj follows).1
      · exact congrArg some (List.cons.inj follows).1
    by_contra notTag
    have full : 1 = 2 := link second begins (eq_false_of_ne_true notTag)
    contradiction

/-- Where one segmentation has an entry of one word, another one of the same words has no entry of two. -/
theorem IsSegmentation.not_pair_of_single (single : IsSegmentation ws ([first] :: entries))
    (pair : IsSegmentation ws ([word, second] :: entries')) : False := by
  have same : first :: entries.flatten = word :: second :: entries'.flatten :=
    single.flatten_eq.trans pair.flatten_eq.symm
  have isTag := single.isTag_of_single (List.cons.inj same).2
  rw [pair.second_not_tag word second List.mem_cons_self] at isTag
  contradiction

/-- Words can be cut in one admissible way only. -/
theorem IsSegmentation.unique (admissible : IsSegmentation ws entries) (admissible' : IsSegmentation ws entries') :
    entries = entries' := by
  induction entries generalizing ws entries' with
  | nil =>
    cases entries' with
    | nil => rfl
    | cons entry' others' =>
      have empty : entry' ++ others'.flatten = [] := admissible'.flatten_eq.trans admissible.flatten_eq.symm
      have bound := admissible'.length_eq entry' List.mem_cons_self
      rw [(List.append_eq_nil_iff.mp empty).1] at bound
      contradiction
  | cons entry others ih =>
    cases entries' with
    | nil =>
      have empty : entry ++ others.flatten = [] := admissible.flatten_eq.trans admissible'.flatten_eq.symm
      have bound := admissible.length_eq entry List.mem_cons_self
      rw [(List.append_eq_nil_iff.mp empty).1] at bound
      contradiction
    | cons entry' others' =>
      have same : entry ++ others.flatten = entry' ++ others'.flatten :=
        admissible.flatten_eq.trans admissible'.flatten_eq.symm
      -- The first entries have the same length, and so they are the same words.
      have sameLength : entry.length = entry'.length := by
        rcases admissible.eq_or_eq List.mem_cons_self with ⟨first, rfl⟩ | ⟨first, second, rfl⟩ <;>
          rcases admissible'.eq_or_eq List.mem_cons_self with ⟨first', rfl⟩ | ⟨first', second', rfl⟩
        · rfl
        · exact (admissible.not_pair_of_single admissible').elim
        · exact (admissible'.not_pair_of_single admissible).elim
        · rfl
      obtain ⟨rfl, sameRest⟩ := List.append_inj same sameLength
      have later' := admissible'.tail
      rw [← sameRest] at later'
      rw [ih admissible.tail later']

/-! ### The entries of a sequence of words -/

theorem isSegmentation_ofWords (ws : List String) : IsSegmentation ws (ofWords ws) := by
  rw [← foldl_push_eq_ofWords]
  exact isSegmentation_foldl_push ws

/-- The entries of a sequence of words are its only admissible segmentation. -/
theorem isSegmentation_iff : IsSegmentation ws entries ↔ entries = ofWords ws := by
  constructor
  · intro admissible
    exact admissible.unique (isSegmentation_ofWords ws)
  · rintro rfl
    exact isSegmentation_ofWords ws

/-- The entries of a sequence of words hold these words, each once and in their order. -/
theorem flatten_ofWords (ws : List String) : (ofWords ws).flatten = ws :=
  (isSegmentation_ofWords ws).flatten_eq

/-- An entry is a word alone, or two words of which the second is no color tag. -/
theorem eq_of_mem_ofWords (listed : entry ∈ ofWords ws) :
    (∃ word, entry = [word]) ∨ ∃ first second, entry = [first, second] ∧ Color.isTag second = false := by
  have admissible := isSegmentation_ofWords ws
  rcases admissible.eq_or_eq listed with single | ⟨first, second, rfl⟩
  · exact Or.inl single
  · exact Or.inr ⟨first, second, rfl, admissible.second_not_tag first second listed⟩

/-- The next word opens an entry, or there is a last entry of one word that it joins. -/
theorem opensBehind_or_joins (ws : List String) (word : String) :
    opensBehind (ofWords ws) word = true ∨
      Color.isTag word = false ∧ ∃ earlier first, ofWords ws = earlier ++ [[first]] :=
  (isSegmentation_ofWords ws).opensBehind_or_joins word

/-! ### More words behind -/

/-- Words that open an entry of their own leave the entries in front of them as they are. -/
theorem ofWords_append_of_opensBehind {ws more : List String}
    (opens : ∀ word ∈ more.head?, opensBehind (ofWords ws) word = true) :
    ofWords (ws ++ more) = ofWords ws ++ ofWords more := by
  rw [← foldl_push_eq_ofWords (ws ++ more), List.foldl_append, foldl_push_eq_ofWords,
    foldl_push_eq_append opens]

/-- A word that joins the last entry fills it, and leaves the other entries as they are. -/
theorem ofWords_append_of_joins {ws rest : List String} {earlier : List Entry} {first word : String}
    (single : ofWords ws = earlier ++ [[first]]) (notTag : Color.isTag word = false) :
    ofWords (ws ++ word :: rest) = earlier ++ [first, word] :: ofWords rest := by
  have full : ∀ next ∈ rest.head?, opensBehind (earlier ++ [[first, word]]) next = true := by
    intro next _
    simp [opensBehind]
  rw [← foldl_push_eq_ofWords, List.foldl_append, foldl_push_eq_ofWords, single, List.foldl_cons,
    push_of_not_isTag notTag, foldl_push_eq_append full, List.append_assoc]
  rfl

end Uno.Entry
