import Marginalia.Proofs.Segment.Concatenation
import Marginalia.Proofs.Segment.Grammar
import Marginalia.Proofs.Segment.Runs

/-!
# `Marginalia.Proofs.Segment.Docblocks`: comments outside docblocks

Tags are read inside docblocks only. `Inside` says where that is by what
the first pass takes the lines for. This file says it by what is written
on them. A docblock runs from a line that begins with `/**` through the
first line behind it that holds `*/` and nothing else, or else to the end
of the file (`LiesIn`). Blanks do not count.

`inside_iff_liesIn` states that the two agree, and
`contribution_comment_iff` what this means for a comment line. Its text
is passed on unchanged if and only if it lies in no docblock or is no
tag. `docs_of_comment_outside` is the first half of this for the
documentation of a section.

A `*/` that shares its line with other text does not close a docblock,
and neither does one on the opening line. With a docblock that ends
wherever `*/` is mentioned (`LiesInMentioned`), comments outside of it
can be rewritten: see `tag_read_behind_summary`.
-/

set_option autoImplicit false

namespace Marginalia.Segment

open Marginalia.Language (Profile)

/-- Line `i` lies in the docblock that line `j` opens:

- `opens`: line `j` begins with `/**`;
- `runs`: no line strictly between the two holds just `*/`. -/
structure LiesIn (lines : List Text) (j i : Nat) : Prop where
  le : j ≤ i
  opens : ∃ line, lines[j]? = some line ∧ openingLead <+: Text.trimStart line
  runs : ∀ k line, j < k → k < i → lines[k]? = some line → Text.trim line ≠ "*/"

/-- The same, if a docblock ended with the first `*/` that is mentioned
behind its beginning, on the opening line or on a later one. -/
structure LiesInMentioned (lines : List Text) (j i : Nat) : Prop where
  le : j ≤ i
  opens : ∃ line rest, lines[j]? = some line ∧ Text.trimStart line = openingLead ++ rest ∧
    (j < i → Text.mentions "*/" rest = false)
  runs : ∀ k line, j < k → k < i → lines[k]? = some line → Text.mentions "*/" line = false

variable {profile : Profile} {lines : List Text} {i : Nat} {rest : Text}

/-! ### Where docblocks open and close -/

theorem opensAt_iff_prefix :
    OpensAt profile lines i
      ↔ ∃ line, lines[i]? = some line ∧ openingLead <+: Text.trimStart line := by
  constructor
  · intro h
    obtain ⟨rest, hdoc⟩ := exists_docAt?_of_opensAt h
    obtain ⟨line, hline, hclass⟩ := Option.bind_eq_some_iff.mp hdoc
    exact ⟨line, hline, rest, (classify?_eq_opening_iff.mp hclass).symm⟩
  · rintro ⟨line, hline, rest, hrest⟩
    have hdoc : docAt? profile lines i = some (.opening, rest) :=
      Option.bind_eq_some_iff.mpr ⟨line, hline, classify?_eq_opening_iff.mpr hrest.symm⟩
    exact (opensAt_iff hdoc).mpr rfl

theorem closesAt_iff_trim :
    ClosesAt profile lines i ↔ ∃ line, lines[i]? = some line ∧ Text.trim line = "*/" := by
  constructor
  · intro h
    cases hdoc : docAt? profile lines i with
    | none => simp [ClosesAt, hdoc] at h
    | some doc =>
      obtain ⟨kind, rest⟩ := doc
      have hcloses := (closesAt_iff hdoc).mp h
      obtain ⟨line, hline, hclass⟩ := Option.bind_eq_some_iff.mp hdoc
      have hkind : kind = .continuation := by
        simp only [closes, Bool.and_eq_true, decide_eq_true_eq] at hcloses
        exact hcloses.1
      subst hkind
      exact ⟨line, hline, closes_iff_trim.mp ⟨rest, hclass, hcloses⟩⟩
  · rintro ⟨line, hline, htrim⟩
    obtain ⟨rest, hclass, hcloses⟩ := closes_iff_trim.mpr htrim
    have hdoc : docAt? profile lines i = some (.continuation, rest) :=
      Option.bind_eq_some_iff.mpr ⟨line, hline, hclass⟩
    exact (closesAt_iff hdoc).mpr hcloses

/-- A line that does not open a docblock itself is inside one when it
lies in one. -/
theorem inside_iff_liesIn (h : ¬OpensAt profile lines i) :
    Inside profile lines i ↔ ∃ j, LiesIn lines j i := by
  constructor
  · rintro ⟨j, hj, hopens, hkeeps⟩
    refine ⟨j, by omega, opensAt_iff_prefix.mp hopens, ?_⟩
    intro k line hjk hki hline htrim
    exact hkeeps k hki hjk (closesAt_iff_trim.mpr ⟨line, hline, htrim⟩)
  · rintro ⟨j, hle, hopens, hruns⟩
    have hopensAt : OpensAt profile lines j := opensAt_iff_prefix.mpr hopens
    have hne : j ≠ i := by
      rintro rfl
      exact h hopensAt
    refine ⟨j, by omega, hopensAt, ?_⟩
    intro k hki hjk hcloses
    obtain ⟨line, hline, htrim⟩ := closesAt_iff_trim.mp hcloses
    exact hruns k line hjk hki hline htrim

/-! ### Comment lines -/

/-- A comment line does not open a docblock. -/
theorem not_opensAt_of_comment (h : docAt? profile lines i = some (.comment, rest)) :
    ¬OpensAt profile lines i := by
  rw [opensAt_iff h]
  decide

/-- And it does not close one. -/
theorem not_closesAt_of_comment (h : docAt? profile lines i = some (.comment, rest)) :
    ¬ClosesAt profile lines i := by
  rw [closesAt_iff h]
  simp [closes]

/-- A comment line contributes what is read off it. -/
theorem contribution_of_comment (h : docAt? profile lines i = some (.comment, rest)) :
    contribution profile lines i = textAt profile lines i rest ++ ['\n'] := by
  have hshown : documentedAt? profile lines i = none := by
    rw [documentedAt?, if_neg (not_opensAt_of_comment h)]
  exact contribution_of_unlabelled h (not_closesAt_of_comment h) hshown

/-- The tag that is read off it, if any, is that of its text. -/
theorem tagAt?_of_comment (h : docAt? profile lines i = some (.comment, rest)) :
    tagAt? profile lines i = if Inside profile lines i then Tag.ofText? rest else none := by
  rw [tagAt?, h]
  by_cases hinside : Inside profile lines i
  · rw [if_pos ⟨hinside, not_closesAt_of_comment h⟩, if_pos hinside, Option.bind_some]
  · rw [if_neg (fun hread => hinside hread.1), if_neg hinside]

/-- Blanks aside, a tag begins with an at sign. -/
theorem head?_of_ofText? {tag : Tag} (h : Tag.ofText? rest = some tag) :
    (Text.trimStart rest).head? = some '@' := by
  rw [Tag.ofText?] at h
  split at h
  · rename_i behind heq
    rw [heq]
    rfl
  · cases h

/-- A piece of a sentence does not. -/
theorem head?_lead_ne (previous : Option TagKind) (kind : TagKind) (text : Text) :
    (Text.trimStart (Tag.lead previous kind ++ text)).head? ≠ some '@' := by
  have hvisible : ∀ (c : Char) (behind : Text), isBlank c = false → c ≠ '@' →
      (Text.trimStart (c :: behind)).head? ≠ some '@' := by
    intro c behind hblank hne
    rw [Text.trimStart, List.dropWhile_cons_of_neg (by simp [hblank]), List.head?_cons]
    exact fun heq => hne (Option.some.inj heq)
  cases previous with
  | none => cases kind <;> exact hvisible _ _ (by decide) (by decide)
  | some earlier =>
    by_cases hsame : earlier = kind
    · rw [Tag.lead, if_pos hsame]
      -- The blank in front of the word goes first.
      show (Text.trimStart ('a' :: _)).head? ≠ _
      exact hvisible _ _ (by decide) (by decide)
    · rw [Tag.lead, if_neg hsame]
      exact hvisible '.' _ (by decide) (by decide)

/-- The text of a comment line is passed on unchanged exactly when no
docblock contains the line, or the text is no tag. -/
theorem contribution_comment_iff (h : docAt? profile lines i = some (.comment, rest)) :
    contribution profile lines i = rest ++ ['\n']
      ↔ (∀ j, ¬ LiesIn lines j i) ∨ Tag.ofText? rest = none := by
  have hout : (∀ j, ¬ LiesIn lines j i) ↔ ¬Inside profile lines i := by
    rw [inside_iff_liesIn (not_opensAt_of_comment h), not_exists]
  rw [contribution_of_comment h, textAt, tagAt?_of_comment h, hout, List.append_cancel_right_eq]
  by_cases hinside : Inside profile lines i
  · rw [if_pos hinside]
    cases htag : Tag.ofText? rest with
    | none => simp
    | some tag =>
      -- The text begins with an at sign, and what is made of it does not.
      have hne : Tag.lead (previousKind profile lines i) tag.kind ++ tag.render ≠ rest := by
        intro heq
        refine head?_lead_ne (previousKind profile lines i) tag.kind tag.render ?_
        rw [heq]
        exact head?_of_ofText? htag
      simp [hinside, hne]
  · rw [if_neg hinside]
    simp [hinside]

/-- **Outside docblocks, comments are plain text.** A comment line that
lies in no docblock stands in the documentation of its section with just
the text behind its symbol, whether this reads as a tag or not. -/
theorem docs_of_comment_outside (profile : Profile) (source : Text) (i : Nat)
    (line symbol rest : Text) (hline : (sourceLines source)[i]? = some line)
    (hcomment : IsComment profile line symbol rest)
    (hout : ∀ j, ¬ LiesIn (sourceLines source) j i) :
    ∃ s first last, HasLine profile source s first last i ∧
      s.docs = docsText profile (sourceLines source) first i
        ++ ((rest ++ ['\n']) ++ docsText profile (sourceLines source) (i + 1) last) := by
  have hdoc : docAt? profile (sourceLines source) i = some (.comment, rest) :=
    Option.bind_eq_some_iff.mpr ⟨line, hline, classify?_eq_comment_iff.mpr ⟨symbol, hcomment⟩⟩
  obtain ⟨s, first, last, hhas⟩ := exists_hasLine hdoc
  refine ⟨s, first, last, hhas, ?_⟩
  rw [hhas.docs_split, (contribution_comment_iff hdoc).mpr (Or.inl hout)]

/-- A docblock that is closed, and a comment that reads as a tag behind
it. -/
def tagBehindText : Text :=
  "/**\n * @param int x one\n */\n// @param int y two\nf();"

theorem docs_of_comment_outside_tagBehindText :
    (sourceLines tagBehindText)[3]? = some ("// @param int y two" : Text) ∧
    IsComment slashLanguage "// @param int y two" "//" " @param int y two" ∧
    (∀ j, ¬ LiesIn (sourceLines tagBehindText) j 3) ∧
    ∃ s first last, HasLine slashLanguage tagBehindText s first last 3 ∧
      s.docs = docsText slashLanguage (sourceLines tagBehindText) first 3
        ++ ((" @param int y two" ++ ['\n'])
          ++ docsText slashLanguage (sourceLines tagBehindText) 4 last) := by
  have hline : (sourceLines tagBehindText)[3]? = some ("// @param int y two" : Text) := by
    decide +kernel
  have hcomment : IsComment slashLanguage "// @param int y two" "//" " @param int y two" :=
    ⟨by decide, ⟨[], [], by decide, by simp⟩, by decide, by decide⟩
  have hout : ∀ j, ¬ LiesIn (sourceLines tagBehindText) j 3 := by
    have hopens : ¬OpensAt slashLanguage (sourceLines tagBehindText) 3 := by decide +kernel
    rw [← not_exists, ← inside_iff_liesIn hopens]
    decide +kernel
  exact ⟨hline, hcomment, hout,
    docs_of_comment_outside slashLanguage tagBehindText 3 _ _ _ hline hcomment hout⟩

/-- A docblock on one line, code, and a comment that reads as a tag. -/
def summaryText : Text :=
  "/** Summary */\n$x = 1;\n// @param int y\n"

/-- A summary that is opened and closed on one line leaves the docblock
open, and a comment far behind it is rewritten. -/
theorem tag_read_behind_summary :
    (sourceLines summaryText)[2]? = some ("// @param int y" : Text) ∧
    IsComment slashLanguage "// @param int y" "//" " @param int y" ∧
    (∀ j, ¬ LiesInMentioned (sourceLines summaryText) j 2) ∧
    slashLanguage.segment summaryText
      = [⟨0, " Summary */\n", "$x = 1;\n"⟩, ⟨1, "Takes \x60int y\x60\n", "\n"⟩] ∧
    ∀ s ∈ slashLanguage.segment summaryText, Text.mentions " @param int y\n" s.docs = false := by
  refine ⟨by decide +kernel, ⟨by decide, ⟨[], [], by decide, by simp⟩, by decide, by decide⟩, ?_,
    by decide +kernel, by decide +kernel⟩
  rintro j ⟨hle, ⟨line, rest, hline, hrest, hmention⟩, -⟩
  have hopens : OpensAt slashLanguage (sourceLines summaryText) j :=
    opensAt_iff_prefix.mpr ⟨line, hline, rest, hrest.symm⟩
  have hcases : j = 0 ∨ j = 1 ∨ j = 2 := by omega
  rcases hcases with rfl | rfl | rfl
  · -- The one line that opens a docblock mentions the end of it.
    have hfirst : line = "/** Summary */" := by
      rw [← Option.some_inj, ← hline]
      decide +kernel
    subst hfirst
    have hlead : openingLead ++ (" Summary */" : Text) = openingLead ++ rest :=
      Eq.trans (by decide) hrest
    rw [← List.append_cancel_left hlead] at hmention
    exact absurd (hmention (by omega)) (by decide)
  · exact absurd hopens (by decide +kernel)
  · exact absurd hopens (by decide +kernel)

end Marginalia.Segment
