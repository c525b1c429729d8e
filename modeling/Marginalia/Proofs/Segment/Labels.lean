import Marginalia.Proofs.Segment.Concatenation
import Marginalia.Proofs.Segment.Docblocks
import Marginalia.Proofs.Segment.Runs

/-!
# `Marginalia.Proofs.Segment.Labels`: which function a docblock is about

An opening looks ahead for a function, and its label replaces what the
line says. `Labels` says which line it finds: the first one behind it
with a signature, if no line strictly between the two opens a docblock.
`documentedAt?_eq_some_iff` states that the search does find this line,
and it finds nothing only if there is none.

`label_of_opening` is about the documentation of a section, where an
opening stands with its label or with its own text (`Shows`). The line
that gives the label is not behind the next opening, and labels no other.
But it may be the next opening: the search looks for a signature on a
line before it asks whether the line opens a docblock. A signature on the
opening line itself then goes to the docblock before, as
`label_from_next_opening` has it.
-/

set_option autoImplicit false

namespace Marginalia.Segment

open Marginalia.Language (Profile)

/-- The name in the signature on line `i`. -/
def signatureAt? (lines : List Text) (i : Nat) : Option Text :=
  lines[i]?.bind signature?

/-- The docblock that line `i` opens has its label from line `k`:

- `opens`, `behind`: line `i` is an opening, and line `k` comes later;
- `signature`: line `k` gives the name;
- `nearest`: no line strictly between the two has a signature or opens a
  docblock. -/
structure Labels (profile : Profile) (lines : List Text) (i k : Nat) (name : Text) : Prop where
  opens : OpensAt profile lines i
  behind : i < k
  signature : signatureAt? lines k = some name
  nearest : ∀ m, i < m → m < k → signatureAt? lines m = none ∧ ¬OpensAt profile lines m

/-- What the opening on line `i` shows in the documentation, where `rest`
is its own text:

- `labelled`: the label that line `k` gives. This line is not behind the
  next opening. It is before the next one unless it is an opening itself,
  and it labels no other docblock.
- `own`: its own text, when no line gives a label. -/
inductive Shows (profile : Profile) (lines : List Text) (i : Nat) (rest : Text) : Text → Prop
  | labelled (k : Nat) (name : Text) (labels : Labels profile lines i k name)
      (not_behind : ∀ j, i < j → OpensAt profile lines j → k ≤ j)
      (before_iff : (∀ j, i < j → OpensAt profile lines j → k < j) ↔ ¬OpensAt profile lines k)
      (alone : ∀ j name', Labels profile lines j k name' → j = i) :
      Shows profile lines i rest (label name)
  | own (unlabelled : ∀ k name, ¬ Labels profile lines i k name) :
      Shows profile lines i rest (textAt profile lines i rest ++ ['\n'])

variable {profile : Profile} {lines : List Text} {i j k : Nat} {rest name name' : Text}

/-! ### The search -/

/-- The search finds the first signature, unless a line before it opens a
docblock. -/
theorem documented?_eq_some_iff :
    documented? profile lines = some name
      ↔ ∃ k, signatureAt? lines k = some name ∧
        ∀ m < k, signatureAt? lines m = none ∧ ¬OpensAt profile lines m := by
  induction lines with
  | nil =>
    refine ⟨fun h => ?_, ?_⟩
    · cases h
    · rintro ⟨k, hk, -⟩
      cases hk
  | cons line rest ih =>
    -- Line 0 is the one that is looked at, and line `m + 1` is line `m` of the rest.
    have hfirst : OpensAt profile (line :: rest) 0 ↔ opensDocblock profile line = true := Iff.rfl
    rw [documented?]
    cases hsignature : signature? line with
    | some found =>
      constructor
      · intro h
        exact ⟨0, hsignature.trans h, fun m hm => by omega⟩
      · rintro ⟨k, hk, hnearest⟩
        cases k with
        | zero => exact hsignature.symm.trans hk
        | succ k =>
          have hnone : signature? line = none := (hnearest 0 (by omega)).1
          rw [hsignature] at hnone
          cases hnone
    | none =>
      by_cases hopens : opensDocblock profile line = true
      · simp only [if_pos hopens]
        refine ⟨fun h => ?_, ?_⟩
        · cases h
        · rintro ⟨k, hk, hnearest⟩
          cases k with
          | zero => cases hsignature.symm.trans hk
          | succ k => exact absurd (hfirst.mpr hopens) (hnearest 0 (by omega)).2
      · simp only [if_neg hopens]
        rw [ih]
        constructor
        · rintro ⟨k, hk, hnearest⟩
          refine ⟨k + 1, hk, ?_⟩
          intro m hm
          cases m with
          | zero => exact ⟨hsignature, fun h => hopens (hfirst.mp h)⟩
          | succ m => exact hnearest m (by omega)
        · rintro ⟨k, hk, hnearest⟩
          cases k with
          | zero => cases hsignature.symm.trans hk
          | succ k => exact ⟨k, hk, fun m hm => hnearest (m + 1) (by omega)⟩

/-- An opening is about the function that labels it. -/
theorem documentedAt?_eq_some_iff (hopens : OpensAt profile lines i) :
    documentedAt? profile lines i = some name ↔ ∃ k, Labels profile lines i k name := by
  -- The lines behind line `i` begin with line `i + 1`.
  have hsignature : ∀ m, signatureAt? (lines.drop (i + 1)) m = signatureAt? lines (i + 1 + m) := by
    intro m
    rw [signatureAt?, List.getElem?_drop, signatureAt?]
  have hopening : ∀ m, OpensAt profile (lines.drop (i + 1)) m
      ↔ OpensAt profile lines (i + 1 + m) := by
    intro m
    rw [OpensAt, docAt?, List.getElem?_drop, OpensAt, docAt?]
  rw [documentedAt?, if_pos hopens, documented?_eq_some_iff]
  constructor
  · rintro ⟨k, hk, hnearest⟩
    refine ⟨i + 1 + k, hopens, by omega, (hsignature k).symm.trans hk, ?_⟩
    intro m him hmk
    have hm := hnearest (m - (i + 1)) (by omega)
    have heq : i + 1 + (m - (i + 1)) = m := by omega
    rw [hsignature, hopening, heq] at hm
    exact hm
  · rintro ⟨k, -, hik, hk, hnearest⟩
    have heq : i + 1 + (k - (i + 1)) = k := by omega
    refine ⟨k - (i + 1), by rw [hsignature, heq, hk], ?_⟩
    intro m hm
    rw [hsignature, hopening]
    exact hnearest (i + 1 + m) (by omega) (by omega)

/-! ### Which openings a line labels -/

/-- No docblock is opened in front of the line that gives the label. -/
theorem Labels.le_of_opensAt (h : Labels profile lines i k name) (hij : i < j)
    (hj : OpensAt profile lines j) : k ≤ j := by
  by_contra hlt
  exact (h.nearest j hij (by omega)).2 hj

/-- So it comes before every later opening, unless it is one. -/
theorem Labels.lt_iff_not_opensAt (h : Labels profile lines i k name) :
    (∀ j, i < j → OpensAt profile lines j → k < j) ↔ ¬OpensAt profile lines k := by
  constructor
  · intro hbefore hk
    have hself := hbefore k h.behind hk
    omega
  · intro hk j hij hj
    have hle := h.le_of_opensAt hij hj
    have hne : k ≠ j := by
      rintro rfl
      exact hk hj
    omega

/-- A line labels at most one docblock. -/
theorem Labels.unique (h : Labels profile lines i k name) (h' : Labels profile lines j k name') :
    j = i := by
  have hik := h.behind
  have hjk := h'.behind
  -- Of two openings, the later one would end the search of the earlier.
  rcases Nat.lt_trichotomy i j with hlt | heq | hlt
  · have hle := h.le_of_opensAt hlt h'.opens
    omega
  · exact heq.symm
  · have hle := h'.le_of_opensAt hlt h.opens
    omega

/-! ### The documentation of an opening -/

/-- An opening contributes the label it has, and else its own text. -/
theorem shows_contribution (h : docAt? profile lines i = some (.opening, rest)) :
    Shows profile lines i rest (contribution profile lines i) := by
  have hopens : OpensAt profile lines i := (opensAt_iff h).mpr rfl
  cases hlabel : documentedAt? profile lines i with
  | some name =>
    obtain ⟨k, hk⟩ := (documentedAt?_eq_some_iff hopens).mp hlabel
    rw [contribution_of_documentedAt? h hlabel]
    refine .labelled k name hk ?_ hk.lt_iff_not_opensAt ?_
    · intro j hij hj
      exact hk.le_of_opensAt hij hj
    · intro j name' hother
      exact hk.unique hother
  | none =>
    rw [contribution_of_unlabelled h (not_closesAt_of_opensAt hopens) hlabel]
    refine .own ?_
    intro k name hk
    have hsome := (documentedAt?_eq_some_iff hopens).mpr ⟨k, hk⟩
    rw [hlabel] at hsome
    cases hsome

/-- **An opening has the label of the function behind it, or keeps its
text.** The line with the signature is not behind the next opening, and
it is the next opening only if a signature stands on the opening line
itself. It labels nothing else. -/
theorem label_of_opening (profile : Profile) (source : Text) (i : Nat) (line rest : Text)
    (hline : (sourceLines source)[i]? = some line)
    (hopening : Text.trimStart line = openingLead ++ rest) :
    ∃ s first last text, HasLine profile source s first last i ∧
      s.docs = docsText profile (sourceLines source) first i
        ++ (text ++ docsText profile (sourceLines source) (i + 1) last) ∧
      Shows profile (sourceLines source) i rest text := by
  have hdoc : docAt? profile (sourceLines source) i = some (.opening, rest) :=
    Option.bind_eq_some_iff.mpr ⟨line, hline, classify?_eq_opening_iff.mpr hopening⟩
  obtain ⟨s, first, last, hhas⟩ := exists_hasLine hdoc
  exact ⟨s, first, last, _, hhas, hhas.docs_split, shows_contribution hdoc⟩

/-- An opening with a signature on its own line, behind a docblock that
is about no function. -/
def wrapperText : Text :=
  "/** Module overview. */\n$x = 1;\n/** Wrapper around function g(x). */\nfunction h() {}"

theorem label_of_opening_wrapperText :
    (sourceLines wrapperText)[2]? = some ("/** Wrapper around function g(x). */" : Text) ∧
    Text.trimStart "/** Wrapper around function g(x). */"
      = openingLead ++ (" Wrapper around function g(x). */" : Text) ∧
    ∃ s first last text, HasLine slashLanguage wrapperText s first last 2 ∧
      s.docs = docsText slashLanguage (sourceLines wrapperText) first 2
        ++ (text ++ docsText slashLanguage (sourceLines wrapperText) 3 last) ∧
      Shows slashLanguage (sourceLines wrapperText) 2 " Wrapper around function g(x). */" text := by
  have hline : (sourceLines wrapperText)[2]?
      = some ("/** Wrapper around function g(x). */" : Text) := by
    decide +kernel
  have hopening : Text.trimStart "/** Wrapper around function g(x). */"
      = openingLead ++ (" Wrapper around function g(x). */" : Text) := by
    decide
  exact ⟨hline, hopening,
    label_of_opening slashLanguage wrapperText 2 _ _ hline hopening⟩

/-- A docblock takes its label from the next opening. -/
theorem label_from_next_opening :
    Labels slashLanguage (sourceLines wrapperText) 0 2 "g" ∧
    OpensAt slashLanguage (sourceLines wrapperText) 2 ∧
    slashLanguage.segment wrapperText
      = [⟨0, "**\x60 g\x60**\n\n ", "$x = 1;\n"⟩,
        ⟨1, "**\x60 h\x60**\n\n ", "function h() {}\n"⟩] := by
  refine ⟨⟨by decide +kernel, by decide, by decide +kernel, ?_⟩, by decide +kernel,
    by decide +kernel⟩
  intro m hm hmk
  have heq : m = 1 := by omega
  subst heq
  decide +kernel

end Marginalia.Segment
