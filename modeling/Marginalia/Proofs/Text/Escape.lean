import Marginalia.Text.Escape

/-!
# `Marginalia.Proofs.Text.Escape`: what escaping writes

A character of an escaped text is either one that references are spelled
with or a character of the text itself that markup does not read as its
own (`mem_escape`). So no tag begins in an escaped text
(`lt_not_mem_escape`), and no line ends in it that did not end before
(`lineFeed_not_mem_escape`).

An attribute value is read back by `unescape`, which knows the references
that are written. `unescape_escapeQuoted_append` says that this gives the
text back, and `quote_not_mem_escapeQuoted` that a reader who stops at the
first quote has all of it. Element content is read back the same way
(`unescape_escape_append`).
-/

set_option autoImplicit false

namespace Marginalia.Text

/-- The characters that references to `&`, `<` and `>` are spelled
with. -/
def referenceChars : Text := "&ampltg;"

/-- A character is written as a reference or as itself. -/
theorem mem_escapeChar {c x : Char} (h : x ∈ escapeChar c) :
    x ∈ referenceChars ∨ x = c ∧ c ≠ '<' ∧ c ≠ '>' := by
  have hamp : ("&amp;" : Text) ⊆ referenceChars := by decide
  have hlt : ("&lt;" : Text) ⊆ referenceChars := by decide
  have hgt : ("&gt;" : Text) ⊆ referenceChars := by decide
  unfold escapeChar at h
  split at h
  · exact Or.inl (hamp h)
  · split at h
    · exact Or.inl (hlt h)
    · split at h
      · exact Or.inl (hgt h)
      · rename_i hne_lt hne_gt
        exact Or.inr ⟨List.mem_singleton.mp h, hne_lt, hne_gt⟩

/-- A character of an escaped text belongs to a reference or to the text,
where it is neither `<` nor `>`. -/
theorem mem_escape {x : Char} {text : Text} (h : x ∈ escape text) :
    x ∈ referenceChars ∨ x ∈ text ∧ x ≠ '<' ∧ x ≠ '>' := by
  obtain ⟨c, hc, hx⟩ := List.mem_flatMap.mp h
  rcases mem_escapeChar hx with href | ⟨rfl, hne⟩
  · exact Or.inl href
  · exact Or.inr ⟨hc, hne⟩

/-- No tag begins in an escaped text. -/
theorem lt_not_mem_escape (text : Text) : '<' ∉ escape text := by
  intro h
  rcases mem_escape h with href | ⟨-, hne, -⟩
  · exact absurd href (by decide)
  · exact hne rfl

/-- No tag ends in an escaped text. -/
theorem gt_not_mem_escape (text : Text) : '>' ∉ escape text := by
  intro h
  rcases mem_escape h with href | ⟨-, -, hne⟩
  · exact absurd href (by decide)
  · exact hne rfl

/-- Escaping brings no line feed into a text. -/
theorem lineFeed_not_mem_escape {text : Text} (h : '\n' ∉ text) : '\n' ∉ escape text := by
  intro hmem
  rcases mem_escape hmem with href | ⟨hin, -⟩
  · exact absurd href (by decide)
  · exact h hin

/-! ### Attribute values -/

/-- An attribute value is escaped as element content is, but for the
quotes. -/
theorem mem_escapeQuoted {x : Char} {text : Text} (h : x ∈ escapeQuoted text) :
    x ∈ ("&quot;" : Text) ∨ x ∈ escape text ∧ x ≠ '"' := by
  obtain ⟨c, hc, hx⟩ := List.mem_flatMap.mp h
  unfold escapeQuotedChar at hx
  split at hx
  · exact Or.inl hx
  · rename_i hne
    refine Or.inr ⟨List.mem_flatMap.mpr ⟨c, hc, hx⟩, ?_⟩
    rintro rfl
    rcases mem_escapeChar hx with href | ⟨heq, -⟩
    · exact absurd href (by decide)
    · exact hne heq.symm

/-- No tag begins in an attribute value. -/
theorem lt_not_mem_escapeQuoted (text : Text) : '<' ∉ escapeQuoted text := by
  intro h
  rcases mem_escapeQuoted h with href | ⟨hin, -⟩
  · exact absurd href (by decide)
  · exact lt_not_mem_escape text hin

/-- No tag ends in an attribute value. -/
theorem gt_not_mem_escapeQuoted (text : Text) : '>' ∉ escapeQuoted text := by
  intro h
  rcases mem_escapeQuoted h with href | ⟨hin, -⟩
  · exact absurd href (by decide)
  · exact gt_not_mem_escape text hin

/-- An attribute value does not end before its end. -/
theorem quote_not_mem_escapeQuoted (text : Text) : '"' ∉ escapeQuoted text := by
  intro h
  rcases mem_escapeQuoted h with href | ⟨-, hne⟩
  · exact absurd href (by decide)
  · exact hne rfl

/-- What an attribute value stands for: each reference for its character,
and all else for itself. -/
def unescape : Text → Text
  | '&' :: 'a' :: 'm' :: 'p' :: ';' :: rest => '&' :: unescape rest
  | '&' :: 'l' :: 't' :: ';' :: rest => '<' :: unescape rest
  | '&' :: 'g' :: 't' :: ';' :: rest => '>' :: unescape rest
  | '&' :: 'q' :: 'u' :: 'o' :: 't' :: ';' :: rest => '"' :: unescape rest
  | c :: rest => c :: unescape rest
  | [] => []

/-- No reference begins with another character than `&`. -/
theorem unescape_cons_of_ne {c : Char} (h : c ≠ '&') (rest : Text) :
    unescape (c :: rest) = c :: unescape rest := by
  rw [unescape.eq_def]
  split
  all_goals simp_all

/-- A character that is written is read back. -/
theorem unescape_escapeQuotedChar_append (c : Char) (rest : Text) :
    unescape (escapeQuotedChar c ++ rest) = c :: unescape rest := by
  by_cases hquote : c = '"'
  · subst hquote
    rfl
  by_cases hamp : c = '&'
  · subst hamp
    rfl
  by_cases hlt : c = '<'
  · subst hlt
    rfl
  by_cases hgt : c = '>'
  · subst hgt
    rfl
  have hchar : escapeQuotedChar c = [c] := by
    rw [escapeQuotedChar, if_neg hquote, escapeChar, if_neg hamp, if_neg hlt, if_neg hgt]
  rw [hchar]
  exact unescape_cons_of_ne hamp rest

/-- So is a text. -/
theorem unescape_escapeQuoted_append (text rest : Text) :
    unescape (escapeQuoted text ++ rest) = text ++ unescape rest := by
  induction text with
  | nil => rfl
  | cons c text ih =>
    show unescape ((escapeQuotedChar c ++ escapeQuoted text) ++ rest) = _
    rw [List.append_assoc, unescape_escapeQuotedChar_append, ih]
    rfl

/-! ### Element content -/

/-- Only quotes are written in another way there. -/
theorem unescape_escapeChar_append (c : Char) (rest : Text) :
    unescape (escapeChar c ++ rest) = c :: unescape rest := by
  by_cases hquote : c = '"'
  · subst hquote
    exact unescape_cons_of_ne (by decide) rest
  · have hchar : escapeQuotedChar c = escapeChar c := if_neg hquote
    rw [← hchar]
    exact unescape_escapeQuotedChar_append c rest

theorem unescape_escape_append (text rest : Text) :
    unescape (escape text ++ rest) = text ++ unescape rest := by
  induction text with
  | nil => rfl
  | cons c text ih =>
    show unescape ((escapeChar c ++ escape text) ++ rest) = _
    rw [List.append_assoc, unescape_escapeChar_append, ih]
    rfl

/-- Element content stands for the text that was escaped. -/
theorem unescape_escape (text : Text) : unescape (escape text) = text := by
  have h := unescape_escape_append text []
  rw [List.append_nil] at h
  exact h.trans (List.append_nil text)

/-- So does an attribute value. -/
theorem unescape_escapeQuoted (text : Text) : unescape (escapeQuoted text) = text := by
  have h := unescape_escapeQuoted_append text []
  rw [List.append_nil] at h
  exact h.trans (List.append_nil text)

end Marginalia.Text
