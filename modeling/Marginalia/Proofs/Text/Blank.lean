import Marginalia.Text.Blank

/-!
# `Marginalia.Proofs.Text.Blank`: trimming

What `Text.trimEnd` takes off and where it stops: blanks at the end do
not count (`trimEnd_append_of_allBlank`), and a text whose last character
is visible keeps all of it (`trimEnd_append_singleton`). What it leaves is
a beginning of the text (`trimEnd_prefix`), and a visible character in
front is part of it (`trimEnd_cons`).

`Text.trimStart` does the same at the beginning. What the two together
leave of a text that is not blank begins and ends with visible characters
(`IsTrimmed`), and what they take off is blank (`exists_eq_trim`).
-/

set_option autoImplicit false

namespace Marginalia.Text

/-! ### At the end -/

/-- Blanks behind a text do not count. -/
theorem trimEnd_append_of_allBlank {trail : Text} (h : trail.allBlank = true) (text : Text) :
    trimEnd (text ++ trail) = trimEnd text := by
  have hall : ∀ c ∈ trail.reverse, isBlank c = true :=
    fun c hc => List.all_eq_true.mp h c (List.mem_reverse.mp hc)
  rw [trimEnd, List.reverse_append, List.dropWhile_append_of_pos hall]
  rfl

/-- A text that ends in a visible character is kept whole. -/
theorem trimEnd_append_singleton {c : Char} (h : isBlank c = false) (text : Text) :
    trimEnd (text ++ [c]) = text ++ [c] := by
  simp [trimEnd, h]

/-- What is left begins as the text did. -/
theorem trimEnd_prefix (text : Text) : trimEnd text <+: text := by
  have hsuffix : text.reverse.dropWhile isBlank <:+ text.reverse := List.dropWhile_suffix _
  rw [← List.reverse_prefix, List.reverse_reverse] at hsuffix
  exact hsuffix

/-- A visible character in front stays, whatever is behind it. -/
theorem trimEnd_cons {c : Char} (h : isBlank c = false) (text : Text) :
    trimEnd (c :: text) = c :: trimEnd text := by
  rw [trimEnd, List.reverse_cons, List.dropWhile_append]
  split
  · rename_i hempty
    rw [trimEnd, List.isEmpty_iff.mp hempty]
    simp [h]
  · rw [List.reverse_append, List.reverse_singleton, List.singleton_append, trimEnd]

/-! ### At the beginning -/

/-- Blanks in front of a text do not count. -/
theorem trimStart_append_of_allBlank {gap : Text} (h : gap.allBlank = true) (text : Text) :
    trimStart (gap ++ text) = trimStart text :=
  List.dropWhile_append_of_pos (List.all_eq_true.mp h)

theorem trimStart_of_allBlank {text : Text} (h : text.allBlank = true) : trimStart text = [] := by
  have htrim := trimStart_append_of_allBlank h []
  rw [List.append_nil] at htrim
  exact htrim

/-- A text that begins with a visible character has no blanks in front. -/
theorem trimStart_of_visible {text : Text} (h : ∀ c ∈ text.head?, isBlank c = false) :
    trimStart text = text := by
  cases text with
  | nil => rfl
  | cons c text =>
    rw [trimStart, List.dropWhile_cons_of_neg]
    rw [h c rfl]
    decide

/-- What is behind a text does not change how it begins. -/
theorem visible_head?_append {text : Text} (hne : text ≠ [])
    (h : ∀ c ∈ text.head?, isBlank c = false) (rest : Text) :
    ∀ c ∈ (text ++ rest).head?, isBlank c = false := by
  cases text with
  | nil => exact absurd rfl hne
  | cons c text => exact h

/-- What is taken off is blank. -/
theorem exists_eq_trimStart (text : Text) :
    ∃ gap : Text, gap.allBlank = true ∧ text = gap ++ trimStart text :=
  ⟨text.takeWhile isBlank, List.all_takeWhile, List.takeWhile_append_dropWhile.symm⟩

/-- What is left begins with a visible character. -/
theorem visible_head?_trimStart (text : Text) :
    ∀ c ∈ (trimStart text).head?, isBlank c = false := by
  intro c hc
  have hhead := List.head?_dropWhile_not isBlank text
  rw [trimStart] at hc
  rw [Option.mem_def.mp hc] at hhead
  exact hhead

/-- There is nothing to take off a second time. -/
theorem trimStart_trimStart (text : Text) : trimStart (trimStart text) = trimStart text :=
  trimStart_of_visible (visible_head?_trimStart text)

/-! ### At both ends -/

/-- A text with visible characters at both of its ends. -/
structure IsTrimmed (text : Text) : Prop where
  nonempty : text ≠ []
  first : ∀ c ∈ text.head?, isBlank c = false
  last : ∀ c ∈ text.getLast?, isBlank c = false

theorem trim_of_allBlank {text : Text} (h : text.allBlank = true) : trim text = [] := by
  rw [trim, trimStart_of_allBlank h]
  rfl

/-- A text that is not blank has something between its blanks. -/
theorem exists_eq_trim {text : Text} (h : text.allBlank = false) :
    ∃ front back : Text, front.allBlank = true ∧ back.allBlank = true ∧
      text = front ++ (trim text ++ back) ∧ IsTrimmed (trim text) := by
  obtain ⟨front, hfront, htext⟩ := exists_eq_trimStart text
  -- The end is trimmed as the beginning is, backwards.
  obtain ⟨tail, htail, hreverse⟩ := exists_eq_trimStart (trimStart text).reverse
  have hback : trimStart text = trim text ++ tail.reverse := by
    rw [← List.reverse_reverse (trimStart text), hreverse, List.reverse_append]
    rfl
  have hblank : allBlank tail.reverse = true := by
    rw [allBlank, List.all_reverse]
    exact htail
  rw [hback] at htext
  refine ⟨front, tail.reverse, hfront, hblank, htext, ?_, ?_, ?_⟩
  · intro hnil
    have hall : text.allBlank = true := by
      rw [htext, hnil, List.nil_append, allBlank, List.all_append]
      exact Bool.and_eq_true_iff.mpr ⟨hfront, hblank⟩
    rw [h] at hall
    cases hall
  · intro c hc
    refine visible_head?_trimStart text c ?_
    rw [hback, List.head?_append, Option.mem_def.mp hc]
    rfl
  · intro c hc
    have hlast : trim text = (trimStart (trimStart text).reverse).reverse := rfl
    rw [hlast, List.getLast?_reverse] at hc
    exact visible_head?_trimStart _ c hc

end Marginalia.Text
