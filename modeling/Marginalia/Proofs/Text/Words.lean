import Marginalia.Proofs.Text.Blank

/-!
# `Marginalia.Proofs.Text.Words`: the words of a text

A word is a longest run of visible characters. `Text.words` finds the words
of a text in one pass from the end, and `Text.cutWord` cuts one off its
beginning. This file says what they find without the pass:

* `words_append_cons`: a blank separates. The words of a text with a blank
  in it are the words before the blank, then those behind it.
* `words_of_isWord`: a run of visible characters is one word.
* `blank_or_exists_firstWord`: a text is blank or has a first word, with
  blanks in front and a place behind it where a word can end (`FirstWord`).
* `FirstWord.words_eq`, `FirstWord.cutWord_trimStart`: the pass and the cut
  both find it.
-/

set_option autoImplicit false

namespace Marginalia.Text

variable {text back gap word rest : Text} {c : Char}

/-- A word: visible characters, at least one. -/
structure IsWord (word : Text) : Prop where
  nonempty : word ≠ []
  visible : ∀ c ∈ word, isBlank c = false

/-- A word in front of this text ends there: the text is empty or begins
with a blank. -/
def EndsWord (text : Text) : Prop :=
  ∀ c ∈ text.head?, isBlank c = true

/-- The first word of a text: only blanks are in front of it, and it ends
where `rest` begins. -/
structure FirstWord (text word rest : Text) : Prop where
  begins : ∃ gap : Text, gap.allBlank = true ∧ text = gap ++ (word ++ rest)
  isWord : IsWord word
  ends : EndsWord rest

instance (text : Text) : Decidable (EndsWord text) :=
  Option.decidableForallMem text.head?

/-! ### One pass from the end -/

/-- The words so far, with the one in front of them that no blank has
closed yet. -/
def closeWord (state : Text × List Text) : List Text :=
  if state.1 = [] then state.2 else state.1 :: state.2

/-- One character more in front: a blank closes a word, and a visible
character is part of it. -/
def wordStep (c : Char) (state : Text × List Text) : Text × List Text :=
  if isBlank c then ([], closeWord state) else (c :: state.1, state.2)

theorem words_eq (text : Text) : words text = closeWord (text.foldr wordStep ([], [])) :=
  rfl

theorem closeWord_append (word : Text) (found later : List Text) :
    closeWord (word, found ++ later) = closeWord (word, found) ++ later := by
  unfold closeWord
  split
  · rfl
  · rfl

/-- Words that have been found stay as they are. -/
theorem foldr_wordStep (text : Text) (later : List Text) :
    text.foldr wordStep ([], later)
      = ((text.foldr wordStep ([], [])).1, (text.foldr wordStep ([], [])).2 ++ later) := by
  induction text with
  | nil => rfl
  | cons c text ih =>
    rw [List.foldr_cons, List.foldr_cons, ih, wordStep, wordStep]
    by_cases hc : isBlank c = true
    · rw [if_pos hc, if_pos hc, closeWord_append]
    · rw [if_neg hc, if_neg hc]

/-- **A blank separates words.** -/
theorem words_append_cons (h : isBlank c = true) (front back : Text) :
    words (front ++ c :: back) = words front ++ words back := by
  have hstep : (c :: back).foldr wordStep ([], []) = ([], words back) := by
    rw [List.foldr_cons, wordStep, if_pos h]
    rfl
  rw [words_eq (front ++ c :: back), List.foldr_append, hstep, foldr_wordStep, closeWord_append]
  rfl

theorem words_cons (h : isBlank c = true) (text : Text) : words (c :: text) = words text :=
  words_append_cons h [] text

/-- A word is its own only word. -/
theorem words_of_isWord (h : IsWord word) : words word = [word] := by
  have hfold : ∀ text : Text, (∀ c ∈ text, isBlank c = false) →
      text.foldr wordStep ([], []) = (text, []) := by
    intro text hvisible
    induction text with
    | nil => rfl
    | cons c text ih =>
      obtain ⟨hc, htext⟩ := List.forall_mem_cons.mp hvisible
      rw [List.foldr_cons, ih htext, wordStep, hc]
      rfl
  rw [words_eq, hfold word h.visible, closeWord, if_neg h.nonempty]

/-- Where a word ends, no word reaches over. -/
theorem words_append_of_endsWord (h : EndsWord back) (front : Text) :
    words (front ++ back) = words front ++ words back := by
  cases back with
  | nil =>
    rw [List.append_nil]
    exact (List.append_nil _).symm
  | cons c back => rw [words_append_cons (h c rfl), words_cons (h c rfl)]

/-! ### Blanks -/

theorem EndsWord.of_allBlank (h : gap.allBlank = true) : EndsWord gap :=
  fun c hc => List.all_eq_true.mp h c (List.mem_of_mem_head? hc)

/-- Blanks in front are no part of a word. -/
theorem words_append_of_allBlank (h : gap.allBlank = true) (text : Text) :
    words (gap ++ text) = words text := by
  induction gap with
  | nil => rfl
  | cons c gap ih =>
    obtain ⟨hc, hgap⟩ := List.forall_mem_cons.mp (List.all_eq_true.mp h)
    rw [List.cons_append, words_cons hc, ih (List.all_eq_true.mpr hgap)]

/-- The first word comes first. -/
theorem FirstWord.words_eq (h : FirstWord text word rest) :
    words text = word :: words rest := by
  obtain ⟨⟨gap, hgap, rfl⟩, hword, hrest⟩ := h
  rw [words_append_of_allBlank hgap, words_append_of_endsWord hrest, words_of_isWord hword,
    List.singleton_append]

/-- Blanks make no word. -/
theorem words_of_allBlank (h : gap.allBlank = true) : words gap = [] := by
  have hwords := words_append_of_allBlank h []
  rwa [List.append_nil] at hwords

/-- Trimming keeps all words. -/
theorem words_trim (text : Text) : words (trim text) = words text := by
  cases hblank : text.allBlank with
  | true =>
    rw [trim_of_allBlank hblank, words_of_allBlank hblank]
    rfl
  | false =>
    obtain ⟨front, back, hfront, hback, htext, -⟩ := exists_eq_trim hblank
    have hwords : words (front ++ (trim text ++ back)) = words (trim text) := by
      rw [words_append_of_allBlank hfront, words_append_of_endsWord (.of_allBlank hback),
        words_of_allBlank hback, List.append_nil]
    rw [← htext] at hwords
    exact hwords.symm

/-- A blank is enough for a word to end. -/
theorem EndsWord.of_gap (hne : gap ≠ []) (hgap : gap.allBlank = true) (rest : Text) :
    EndsWord (gap ++ rest) := by
  cases gap with
  | nil => exact absurd rfl hne
  | cons c gap =>
    intro d hd
    cases hd
    exact List.all_eq_true.mp hgap c List.mem_cons_self

/-- A word begins with a visible character. -/
theorem IsWord.visible_head? (h : IsWord word) : ∀ c ∈ word.head?, isBlank c = false :=
  fun c hc => h.visible c (List.mem_of_mem_head? hc)

/-- A word does not end in front of a visible character. -/
theorem EndsWord.ne_nil (h : EndsWord (gap ++ (text ++ rest))) (hne : text ≠ [])
    (hvisible : ∀ c ∈ text.head?, isBlank c = false) : gap ≠ [] := by
  rintro rfl
  obtain ⟨c, behind, rfl⟩ := List.exists_cons_of_ne_nil hne
  have hblank : isBlank c = true := h c rfl
  rw [hvisible c rfl] at hblank
  cases hblank

/-! ### One word from the beginning -/

/-- A word is cut off where it ends. -/
theorem cutWord_append_of_endsWord (hvisible : ∀ c ∈ word, isBlank c = false)
    (h : EndsWord rest) : cutWord (word ++ rest) = (word, rest) := by
  have hword : ∀ c ∈ word, (!isBlank c) = true := by
    intro c hc
    rw [hvisible c hc]
    rfl
  rw [cutWord, List.takeWhile_append_of_pos hword, List.dropWhile_append_of_pos hword]
  cases rest with
  | nil => simp
  | cons c rest =>
    have hc : isBlank c = true := h c rfl
    simp [hc]

theorem visible_cutWord (text : Text) : ∀ c ∈ (cutWord text).1, isBlank c = false := by
  intro c hc
  have hvisible := List.all_eq_true.mp (List.all_takeWhile (p := (!isBlank ·)) (l := text)) c hc
  simpa using hvisible

theorem endsWord_cutWord (text : Text) : EndsWord (cutWord text).2 := by
  intro c hc
  have hhead := List.head?_dropWhile_not (!isBlank ·) text
  rw [cutWord] at hc
  rw [Option.mem_def.mp hc] at hhead
  simpa using hhead

/-- A text is blank, or it has a first word. -/
theorem blank_or_exists_firstWord (text : Text) :
    text.allBlank = true ∨ ∃ word rest, FirstWord text word rest := by
  obtain ⟨gap, hgap, htext⟩ := exists_eq_trimStart text
  cases hbegin : trimStart text with
  | nil =>
    rw [htext, hbegin, List.append_nil]
    exact .inl hgap
  | cons c behind =>
    have hc : isBlank c = false := visible_head?_trimStart text c (by rw [hbegin]; rfl)
    have hne : (cutWord (c :: behind)).1 ≠ [] := by
      rw [cutWord, List.takeWhile_cons_of_pos (by rw [hc]; rfl)]
      exact List.cons_ne_nil _ _
    refine .inr ⟨(cutWord (c :: behind)).1, (cutWord (c :: behind)).2, ⟨gap, hgap, ?_⟩,
      ⟨hne, visible_cutWord _⟩, endsWord_cutWord _⟩
    rw [cutWord_append, ← hbegin]
    exact htext

/-- What is in front of the first word is taken off with it. -/
theorem FirstWord.cutWord_trimStart (h : FirstWord text word rest) :
    cutWord (trimStart text) = (word, rest) := by
  obtain ⟨⟨gap, hgap, rfl⟩, hword, hrest⟩ := h
  have hvisible := visible_head?_append hword.nonempty hword.visible_head? rest
  rw [trimStart_append_of_allBlank hgap, trimStart_of_visible hvisible,
    cutWord_append_of_endsWord hword.visible hrest]

end Marginalia.Text
