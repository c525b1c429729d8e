import Marginalia.Proofs.Segment.Concatenation
import Marginalia.Proofs.Segment.Runs

/-!
# `Marginalia.Proofs.Segment.Sentences`: tags that go on with a sentence

A tag inside a docblock goes on with the sentence of the tag before it:
its text begins with " and ", or with a full stop and a new header. The
first pass remembers the kind of that tag and nothing else. So it does
not know whether the text of the tag still stands where the new one is
written.

`follows_of_continues` says where it does. Take a line that goes on with
a sentence. The nearest documentation line before it reads as a tag, and
the text of this tag stands right in front of the line if and only if

* no code stands between the two lines, and
* no label has taken the place of that text.

Code between them begins a new section, and its documentation then begins
in the middle of a sentence. A label is written where an opening reads as
a tag and is about a function. Then the label is what stands in front,
and the tag under it is lost. `continuation_of_nothing` has an input for
either.
-/

set_option autoImplicit false

namespace Marginalia.Segment

open Marginalia.Language (Profile)

/-- The beginnings of a text that goes on with a sentence. -/
def continuations : List Text :=
  [" and ", ". Takes ", ". Returns "]

section
variable (profile : Profile) (lines : List Text)

/-- The text of a line that reads as `tag`. -/
def tagText (i : Nat) (tag : Tag) : Text :=
  Tag.lead (previousKind profile lines i) tag.kind ++ tag.render ++ ['\n']

/-- Line `i` goes on with a sentence:

- `reads`, `shown`: it reads as a tag, and no label stands in its place;
- `begins`: what it contributes begins as such a line does. -/
structure Continues (i : Nat) (tag : Tag) : Prop where
  reads : tagAt? profile lines i = some tag
  shown : documentedAt? profile lines i = none
  begins : ∃ lead ∈ continuations, lead <+: contribution profile lines i

/-- Line `j` is the nearest documentation line before line `i`. -/
structure NearestDoc (j i : Nat) : Prop where
  lt : j < i
  doc : (docAt? profile lines j).isSome = true
  code : ∀ k, j < k → k < i → docAt? profile lines k = none

end

/-- Line `i` of a source reads as `tag` and goes on with the sentence of
line `j`, which reads as `earlier`:

- `line`, `docs`: it stands in the documentation of the section `s`;
- `nearest`, `reads`, `kind`: the tag that it goes on with is that of the
  nearest documentation line before it;
- `behind_iff`: the text of that tag is what stands in front of it if and
  only if the two lines are next to each other and no label stands in the
  place of the first;
- `alone`: if they are not, then nothing stands in front of it;
- `labelled`: if a label does, then it is the label. -/
structure Follows (profile : Profile) (source : Text) (s : Section) (first last : Nat)
    (j : Nat) (earlier : Tag) (i : Nat) (tag : Tag) : Prop where
  line : HasLine profile source s first last i
  docs : s.docs = docsText profile (sourceLines source) first i
    ++ (tagText profile (sourceLines source) i tag
      ++ docsText profile (sourceLines source) (i + 1) last)
  nearest : NearestDoc profile (sourceLines source) j i
  reads : tagAt? profile (sourceLines source) j = some earlier
  kind : previousKind profile (sourceLines source) i = some earlier.kind
  behind_iff : tagText profile (sourceLines source) j earlier
      <:+ docsText profile (sourceLines source) first i
    ↔ i = j + 1 ∧ documentedAt? profile (sourceLines source) j = none
  alone : i ≠ j + 1 → docsText profile (sourceLines source) first i = []
  labelled : ∀ name, i = j + 1 → documentedAt? profile (sourceLines source) j = some name →
    label name <:+ docsText profile (sourceLines source) first i

variable {profile : Profile} {lines : List Text} {source : Text} {s : Section}
  {first last i j : Nat} {tag : Tag} {name : Text}

/-! ### The text of a tag -/

/-- A line that reads as a tag is documentation, and closes nothing. -/
theorem exists_docAt?_of_tagAt? (h : tagAt? profile lines i = some tag) :
    ∃ kind rest, docAt? profile lines i = some (kind, rest) ∧ ¬ClosesAt profile lines i := by
  have hread : Inside profile lines i ∧ ¬ClosesAt profile lines i := by
    by_contra hnot
    rw [tagAt?, if_neg hnot] at h
    cases h
  rw [tagAt?, if_pos hread] at h
  obtain ⟨⟨kind, rest⟩, hdoc, -⟩ := Option.bind_eq_some_iff.mp h
  exact ⟨kind, rest, hdoc, hread.2⟩

/-- Without a label, such a line contributes the text of the tag. -/
theorem contribution_of_tagAt? (htag : tagAt? profile lines i = some tag)
    (hshown : documentedAt? profile lines i = none) :
    contribution profile lines i = tagText profile lines i tag := by
  obtain ⟨kind, rest, hdoc, hcloses⟩ := exists_docAt?_of_tagAt? htag
  rw [contribution_of_unlabelled hdoc hcloses hshown, textAt, htag]
  rfl

/-- The text of a tag ends with a line feed. -/
theorem getLast?_tagText (profile : Profile) (lines : List Text) (i : Nat) (tag : Tag) :
    (tagText profile lines i tag).getLast? = some '\n' := by
  rw [tagText, List.getLast?_concat]

/-- A label does not. -/
theorem getLast?_label (name : Text) : (label name).getLast? = some ' ' := by
  rw [label, List.getLast?_append_of_ne_nil _ (by decide)]
  rfl

/-- A tag goes on with a sentence when there is a tag before it. The
headers begin with capital letters, and the other beginnings do not. -/
theorem exists_continuation_iff {previous : Option TagKind} {kind : TagKind} (text : Text) :
    (∃ lead ∈ continuations, lead <+: Tag.lead previous kind ++ text) ↔ previous ≠ none := by
  cases previous with
  | none =>
    have hcapital : ∀ lead ∈ continuations, lead.head? ≠ kind.header.head? ∧ lead ≠ [] := by
      cases kind <;> decide
    have hheader : kind.header ≠ [] := by
      cases kind <;> decide
    refine ⟨?_, fun hne => absurd rfl hne⟩
    rintro ⟨lead, hlead, behind, hbehind⟩
    obtain ⟨hhead, hne⟩ := hcapital lead hlead
    have hsame := congrArg List.head? hbehind
    rw [List.head?_append_of_ne_nil _ hne] at hsame
    change lead.head? = (kind.header ++ text).head? at hsame
    rw [List.head?_append_of_ne_nil _ hheader] at hsame
    exact absurd hsame hhead
  | some earlier =>
    have hlead : Tag.lead (some earlier) kind ∈ continuations := by
      cases earlier <;> cases kind <;> decide
    exact ⟨fun _ => Option.some_ne_none earlier,
      fun _ => ⟨_, hlead, List.prefix_append _ _⟩⟩

/-- What goes on with a sentence has a tag before it. -/
theorem Continues.exists_previousKind (h : Continues profile lines i tag) :
    ∃ kind, previousKind profile lines i = some kind := by
  have hbegins := h.begins
  rw [contribution_of_tagAt? h.reads h.shown, tagText, List.append_assoc,
    exists_continuation_iff] at hbegins
  exact Option.ne_none_iff_exists'.mp hbegins

/-! ### The line before -/

/-- Looking back finds the nearest documentation line. -/
theorem nearestDoc_of_previousDoc? (h : previousDoc? profile lines i = some j) :
    NearestDoc profile lines j i := by
  induction i with
  | zero => cases h
  | succ i ih =>
    rw [previousDoc?_succ] at h
    split at h
    · rename_i hdoc
      cases h
      exact ⟨Nat.lt_succ_self _, hdoc, fun k hk hki => by omega⟩
    · rename_i hcode
      obtain ⟨hlt, hdoc, hbetween⟩ := ih h
      refine ⟨by omega, hdoc, fun k hk hki => ?_⟩
      -- The line just passed is code, and the others are by induction.
      by_cases heq : k = i
      · subst heq
        simpa using hcode
      · exact hbetween k hk (by omega)

/-- Where a tag has been read before, the nearest documentation line
reads as one. -/
theorem exists_nearestDoc {kind : TagKind} (h : previousKind profile lines i = some kind) :
    ∃ j earlier, NearestDoc profile lines j i ∧ tagAt? profile lines j = some earlier ∧
      earlier.kind = kind := by
  obtain ⟨j, hj, hkind⟩ := Option.bind_eq_some_iff.mp h
  obtain ⟨earlier, hearlier, heq⟩ := Option.map_eq_some_iff.mp hkind
  exact ⟨j, earlier, nearestDoc_of_previousDoc? hj, hearlier, heq⟩

/-- A run with code right before one of its lines begins with it. -/
theorem NearestDoc.docsText_eq_nil (h : NearestDoc profile lines j i)
    (hrun : IsRun profile lines first last) (hfirst : first ≤ i) (hlast : i < last)
    (hne : i ≠ j + 1) : docsText profile lines first i = [] := by
  have hlt := h.lt
  have hcode : docAt? profile lines (i - 1) = none := h.code (i - 1) (by omega) (by omega)
  have heq : first = i := by
    by_contra hbefore
    have hdoc := hrun.docs (i - 1) (by omega) (by omega)
    rw [hcode] at hdoc
    cases hdoc
  rw [heq, docsText_self]

/-- A run does not begin right behind a documentation line. -/
theorem NearestDoc.first_le (h : NearestDoc profile lines j i)
    (hrun : IsRun profile lines first last) (hfirst : first ≤ i) (heq : i = j + 1) :
    first ≤ j := by
  by_contra hbegins
  have hcode := hrun.before j (by omega)
  have hdoc := h.doc
  rw [hcode] at hdoc
  cases hdoc

/-- The text of a tag does not stand in front of nothing, and not in
front of what comes behind a label. -/
theorem not_tagText_suffix_label (front : Text) :
    ¬ tagText profile lines j tag <:+ front ++ label name := by
  rintro ⟨before, heq⟩
  have hlast := congrArg List.getLast? heq
  rw [List.getLast?_append_of_ne_nil _ (by simp [tagText]), getLast?_tagText,
    List.getLast?_append_of_ne_nil _ (label_ne_nil name), getLast?_label] at hlast
  cases hlast

/-! ### Where a sentence goes on -/

/-- **A sentence goes on behind its beginning, or behind nothing.** What
a line goes on with stands right in front of it if and only if neither
code nor a label has come between. -/
theorem follows_of_continues (profile : Profile) (source : Text) (i : Nat) (tag : Tag)
    (h : Continues profile (sourceLines source) i tag) :
    ∃ s first last j earlier, Follows profile source s first last j earlier i tag := by
  obtain ⟨kind, hkind⟩ := h.exists_previousKind
  obtain ⟨j, earlier, hnearest, hearlier, rfl⟩ := exists_nearestDoc hkind
  obtain ⟨_, _, hdoc, -⟩ := exists_docAt?_of_tagAt? h.reads
  obtain ⟨_, _, hdocEarlier, -⟩ := exists_docAt?_of_tagAt? hearlier
  obtain ⟨s, first, last, hline⟩ := exists_hasLine hdoc
  -- In front of the line stands the run up to line `j`, and what that contributes.
  have hfront : i = j + 1 → docsText profile (sourceLines source) first i
      = docsText profile (sourceLines source) first j
        ++ contribution profile (sourceLines source) j := by
    intro heq
    rw [heq, docsText_succ]
    exact hnearest.first_le hline.run hline.first_le heq
  have halone : i ≠ j + 1 → docsText profile (sourceLines source) first i = [] :=
    hnearest.docsText_eq_nil hline.run hline.first_le hline.lt_last
  refine ⟨s, first, last, j, earlier, hline, ?docs, hnearest, hearlier, hkind, ⟨?mp, ?mpr⟩,
    halone, ?labelled⟩
  case docs =>
    rw [hline.docs_split, contribution_of_tagAt? h.reads h.shown]
  case mp =>
    intro hsuffix
    have heq : i = j + 1 := by
      by_contra hne
      rw [halone hne, List.suffix_nil] at hsuffix
      exact List.append_ne_nil_of_right_ne_nil _ (by decide) hsuffix
    refine ⟨heq, ?_⟩
    cases hdocumented : documentedAt? profile (sourceLines source) j with
    | none => rfl
    | some name =>
      rw [hfront heq, contribution_of_documentedAt? hdocEarlier hdocumented] at hsuffix
      exact absurd hsuffix (not_tagText_suffix_label _)
  case mpr =>
    rintro ⟨heq, hshown⟩
    rw [hfront heq, contribution_of_tagAt? hearlier hshown]
    exact List.suffix_append _ _
  case labelled =>
    intro name heq hdocumented
    rw [hfront heq, contribution_of_documentedAt? hdocEarlier hdocumented]
    exact List.suffix_append _ _

/-- A docblock with two tags of different kinds. -/
def twoTagsText : Text :=
  "/**\n * @param int x one\n * @return int y\n */\nf();"

theorem follows_of_continues_return :
    Continues slashLanguage (sourceLines twoTagsText) 2 ⟨.return, "int", "y", []⟩ ∧
    ∃ s first last j earlier,
      Follows slashLanguage twoTagsText s first last j earlier 2 ⟨.return, "int", "y", []⟩ := by
  have hcontinues :
      Continues slashLanguage (sourceLines twoTagsText) 2 ⟨.return, "int", "y", []⟩ := by
    refine ⟨by decide +kernel, by decide +kernel, ". Returns ", by decide, ?_⟩
    decide +kernel
  exact ⟨hcontinues, follows_of_continues _ _ _ _ hcontinues⟩

/-- Code inside a docblock begins a section in the middle of a sentence.
And a label leaves nothing of the tag that the next line goes on with. -/
theorem continuation_of_nothing :
    let divided : Text := "/**\n * @param int x one\nx = 1;\n * @param int y two\n */"
    let labelled : Text :=
      "/**\n/** @param int a first\n * @param int b second\n */\nfunction f(a, b) {}"
    Continues slashLanguage (sourceLines divided) 3 ⟨.param, "int", "y", "two"⟩ ∧
    slashLanguage.segment divided
      = [⟨0, "\nTakes \x60int x\x60 one\n", "x = 1;\n"⟩, ⟨1, " and \x60int y\x60 two\n.", []⟩] ∧
    Continues slashLanguage (sourceLines labelled) 2 ⟨.param, "int", "b", "second"⟩ ∧
    slashLanguage.segment labelled
      = [⟨0, "\n**\x60 f\x60**\n\n  and \x60int b\x60 second\n.", "function f(a, b) {}\n"⟩] :=
  ⟨⟨by decide +kernel, by decide +kernel, " and ", by decide, by decide +kernel⟩,
    by decide +kernel,
    ⟨by decide +kernel, by decide +kernel, " and ", by decide, by decide +kernel⟩,
    by decide +kernel⟩

end Marginalia.Segment
