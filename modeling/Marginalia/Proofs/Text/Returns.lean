import Marginalia.Proofs.Text.Blank
import Marginalia.Proofs.Text.Lines
import Mathlib.Data.List.Forall2

/-!
# `Marginalia.Proofs.Text.Returns`: carriage returns at the ends of lines

A text can also have a carriage return in front of each line feed
(`withReturns`). Its lines are still cut at the line feeds, so that each
but the last has a carriage return at its end. `Trailed` is the relation
between a line and the same line with carriage returns behind it, and
`forall₂_lines` says that the lines of the two texts are so related.

The rest is about what the relation comes to when a line is cut. As long
as only the front is looked at, the parts in front are the same and what
is behind them is again related (`Trailed.dropWhile`,
`Trailed.takeWhile_eq`, `Trailed.after?_cases`). Trimming the end makes both the same
(`Trailed.trimEnd_eq`).
-/

set_option autoImplicit false

namespace Marginalia.Text

/-- The text with a carriage return in front of every line feed. -/
def withReturns (text : Text) : Text :=
  text.flatMap fun c => if c = '\n' then ['\r', '\n'] else [c]

/-- The text without its carriage returns. -/
def withoutReturns (text : Text) : Text :=
  text.filter (· != '\r')

/-- A text without carriage returns, and the same text with some number of
them behind it. -/
inductive Trailed : (text trailed : Text) → Prop
  | behind (n : Nat) : Trailed [] (List.replicate n '\r')
  | cons {c : Char} {text trailed : Text} (visible : c ≠ '\r') (h : Trailed text trailed) :
      Trailed (c :: text) (c :: trailed)

variable {text trailed lead : Text} {p : Char → Bool}

/-! ### Deleting them -/

theorem withoutReturns_append (front back : Text) :
    withoutReturns (front ++ back) = withoutReturns front ++ withoutReturns back :=
  List.filter_append front back

theorem withoutReturns_of_not_mem (h : '\r' ∉ text) : withoutReturns text = text := by
  refine List.filter_eq_self.mpr fun c hc => bne_iff_ne.mpr ?_
  rintro rfl
  exact h hc

theorem Trailed.withoutReturns_eq (h : Trailed text trailed) :
    withoutReturns trailed = text := by
  induction h with
  | behind n => simp [withoutReturns]
  | cons visible _ ih =>
    rw [withoutReturns, List.filter_cons_of_pos (by simpa using visible)]
    exact congrArg _ ih

theorem Trailed.not_mem (h : Trailed text trailed) : '\r' ∉ text := by
  induction h with
  | behind n => exact List.not_mem_nil
  | cons visible _ ih => exact List.not_mem_cons_of_ne_of_not_mem (Ne.symm visible) ih

/-! ### The lines of a text -/

/-- The lines of a text with carriage returns are the lines of the text,
with carriage returns behind them. The induction is on the text; the line
that a line feed closes is the one that gets a carriage return. -/
theorem forall₂_lines (h : '\r' ∉ text) :
    List.Forall₂ Trailed (lines text) (lines (withReturns text)) := by
  induction text with
  | nil => exact .cons (.behind 0) .nil
  | cons c text ih =>
    obtain ⟨hc, htext⟩ := List.ne_and_not_mem_of_not_mem_cons h
    have hlines := ih htext
    by_cases hfeed : c = '\n'
    · subst hfeed
      have hwith : withReturns ('\n' :: text) = '\r' :: '\n' :: withReturns text := rfl
      rw [hwith, lines, lines, splitOn_cons_self, splitOn_cons '\n' '\r', splitOn_cons_self,
        consCut_of_ne (by decide)]
      exact .cons (.behind 1) hlines
    · have hwith : withReturns (c :: text) = c :: withReturns text := by
        simp [withReturns, hfeed]
      obtain ⟨part, parts, hparts⟩ := exists_splitOn_eq_cons '\n' text
      obtain ⟨part', parts', hparts'⟩ := exists_splitOn_eq_cons '\n' (withReturns text)
      rw [lines, lines, hparts, hparts', List.forall₂_cons] at hlines
      rw [hwith, lines, lines, splitOn_cons, splitOn_cons, hparts, hparts', consCut_of_ne hfeed,
        consCut_of_ne hfeed]
      exact .cons (.cons (Ne.symm hc) hlines.1) hlines.2

/-! ### Cutting a line -/

/-- What is dropped in front of the carriage returns is the same. -/
theorem Trailed.dropWhile (h : Trailed text trailed) (p : Char → Bool) :
    Trailed (text.dropWhile p) (trailed.dropWhile p) := by
  induction h with
  | behind n =>
    cases hreturn : p '\r' with
    | true =>
      have hall : (List.replicate n '\r').dropWhile p = [] := by
        simp [hreturn]
      rw [hall]
      exact .behind 0
    | false =>
      have hnone : (List.replicate n '\r').dropWhile p = List.replicate n '\r' := by
        simp [hreturn]
      rw [hnone]
      exact .behind n
  | @cons c text trailed visible h ih =>
    cases hc : p c with
    | true =>
      rw [List.dropWhile_cons_of_pos hc, List.dropWhile_cons_of_pos hc]
      exact ih
    | false =>
      rw [List.dropWhile_cons_of_neg (by simp [hc]), List.dropWhile_cons_of_neg (by simp [hc])]
      exact h.cons visible

/-- What is taken in front of them is the same. -/
theorem Trailed.takeWhile_eq (h : Trailed text trailed) (hreturn : p '\r' = false) :
    trailed.takeWhile p = text.takeWhile p := by
  induction h with
  | behind n => simp [hreturn]
  | @cons c text trailed visible h ih =>
    rw [List.takeWhile_cons, List.takeWhile_cons, ih]

/-- Blanks in front do not matter. -/
theorem Trailed.trimStart (h : Trailed text trailed) :
    Trailed (trimStart text) (trimStart trailed) :=
  h.dropWhile isBlank

/-- Behind a text that is not blank the carriage returns stay, so as many
characters are in front of the first visible one. -/
theorem Trailed.length_trimStart (h : Trailed text trailed)
    (hvisible : Text.trimStart text ≠ []) :
    (Text.trimStart trailed).length + text.length
      = (Text.trimStart text).length + trailed.length := by
  induction h with
  | behind n => exact absurd rfl hvisible
  | @cons c text trailed visible h ih =>
    rw [Text.trimStart] at hvisible ⊢
    cases hc : isBlank c with
    | true =>
      rw [List.dropWhile_cons_of_pos hc] at hvisible ⊢
      rw [Text.trimStart, List.dropWhile_cons_of_pos hc]
      have hrest := ih hvisible
      rw [Text.trimStart, Text.trimStart] at hrest
      simp only [List.length_cons]
      omega
    | false =>
      rw [Text.trimStart, List.dropWhile_cons_of_neg (by simp [hc]),
        List.dropWhile_cons_of_neg (by simp [hc])]
      exact Nat.add_comm _ _

/-- Carriage returns are blanks, so behind a text they do not count. -/
theorem Trailed.trimEnd_eq (h : Trailed text trailed) : trimEnd trailed = trimEnd text := by
  obtain ⟨n, hn⟩ : ∃ n, trailed = text ++ List.replicate n '\r' := by
    induction h with
    | behind n => exact ⟨n, rfl⟩
    | cons visible _ ih =>
      obtain ⟨n, hn⟩ := ih
      exact ⟨n, by rw [hn, List.cons_append]⟩
  rw [hn]
  refine trimEnd_append_of_allBlank ?_ text
  exact List.all_eq_true.mpr fun c hc => List.eq_of_mem_replicate hc ▸ by decide

/-- Words do not reach into them. -/
theorem Trailed.cutWord (h : Trailed text trailed) :
    (cutWord trailed).1 = (cutWord text).1 ∧
    Trailed (cutWord text).2 (cutWord trailed).2 :=
  ⟨h.takeWhile_eq (by decide), h.dropWhile _⟩

/-- Another character than a carriage return comes first in both or in
neither. -/
theorem Trailed.head_cases {c : Char} (h : Trailed text trailed) (hc : c ≠ '\r') :
    (∃ rest rest', text = c :: rest ∧ trailed = c :: rest' ∧ Trailed rest rest')
      ∨ ((∀ rest, text ≠ c :: rest) ∧ ∀ rest, trailed ≠ c :: rest) := by
  cases h with
  | behind n =>
    refine .inr ⟨fun rest hnil => List.cons_ne_nil c rest hnil.symm, fun rest heq => ?_⟩
    have hmem : c ∈ List.replicate n '\r' := by
      rw [heq]
      exact List.mem_cons_self
    exact hc (List.eq_of_mem_replicate hmem)
  | @cons d text trailed visible h =>
    by_cases hcd : d = c
    · subst hcd
      exact .inl ⟨text, trailed, rfl, rfl, h⟩
    · exact .inr ⟨fun rest heq => hcd (List.cons.inj heq).1,
        fun rest heq => hcd (List.cons.inj heq).1⟩

/-- A beginning without carriage returns is found in neither or in
both. -/
theorem Trailed.after?_cases (h : Trailed text trailed) (hlead : '\r' ∉ lead) :
    (after? lead text = none ∧ after? lead trailed = none)
      ∨ ∃ rest rest', after? lead text = some rest ∧ after? lead trailed = some rest'
        ∧ Trailed rest rest' := by
  induction lead generalizing text trailed with
  | nil => exact .inr ⟨text, trailed, rfl, rfl, h⟩
  | cons c lead ih =>
    obtain ⟨hc, hrest⟩ := List.ne_and_not_mem_of_not_mem_cons hlead
    cases h with
    | behind n =>
      cases n with
      | zero => exact .inl ⟨rfl, rfl⟩
      | succ n => exact .inl ⟨rfl, if_neg (Ne.symm hc)⟩
    | @cons d text trailed visible h =>
      rw [after?, after?]
      by_cases hcd : c = d
      · rw [if_pos hcd, if_pos hcd]
        exact ih h hrest
      · rw [if_neg hcd, if_neg hcd]
        exact .inl ⟨rfl, rfl⟩

end Marginalia.Text
