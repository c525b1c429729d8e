import Marginalia.Proofs.Segment.Sections

/-!
# `Marginalia.Proofs.Segment.Runs`: which section a line stands in

`segment_docs` has the documentation of the sections in terms of
stretches. For a single documentation line it is easier to look at the
lines around it. These are documentation up to the next line of code on
either side, and this run is what the section is made of:

* `IsRun`: a longest run of documentation lines.
* `docsText`: what the lines of a run contribute, in order.
* `HasLine`: a section whose documentation is a run with a given line in
  it.

`exists_hasLine` states that every documentation line has such a section.
`HasLine.docs_split` cuts its documentation at the line.
-/

set_option autoImplicit false

namespace Marginalia.Segment

open Marginalia.Language (Profile)

section
variable (profile : Profile) (lines : List Text)

/-- A longest run of documentation lines, from line `first` up to line
`last`, which is not one of them:

- `docs`: all of them are documentation;
- `before`, `behind`: the lines around them are not. -/
structure IsRun (first last : Nat) : Prop where
  docs : ∀ i, first ≤ i → i < last → (docAt? profile lines i).isSome = true
  before : ∀ i, first = i + 1 → docAt? profile lines i = none
  behind : docAt? profile lines last = none

/-- What the lines from `first` up to `last` contribute, in order. -/
def docsText (first last : Nat) : Text :=
  (List.range' first (last - first)).flatMap (contribution profile lines)

end

/-- A section that line `i` of a source is documentation of:

- `mem`: it is one of the sections of the source;
- `run`, `first_le`, `lt_last`: the lines from `first` up to `last` are a
  longest run of documentation, with line `i` among them;
- `docs`: these lines make up its documentation. -/
structure HasLine (profile : Profile) (source : Text) (s : Section) (first last i : Nat) :
    Prop where
  mem : s ∈ profile.segment source
  run : IsRun profile (sourceLines source) first last
  first_le : first ≤ i
  lt_last : i < last
  docs : s.docs = docsText profile (sourceLines source) first last

/-! ### Stretches and what stands around them -/

/-- No item next to the documentation of a stretch is documentation. -/
theorem IsPartition.exists_split {α : Type} {doc : α → Bool} {items : List α}
    {parts : List (Stretch α)} {s : Stretch α} (h : IsPartition doc items parts)
    (hs : s ∈ parts) :
    ∃ before behind, items = before ++ (s.docs ++ behind) ∧
      (∀ x ∈ before.getLast?, doc x = false) ∧ (∀ x ∈ behind.head?, doc x = false) := by
  obtain ⟨earlier, later, rfl⟩ := List.append_of_mem hs
  have hitems : items = earlier.flatMap Stretch.items
      ++ (s.docs ++ (s.code ++ later.flatMap Stretch.items)) := by
    rw [← h.covers, List.flatMap_append, List.flatMap_cons, Stretch.items, List.append_assoc]
  refine ⟨_, _, hitems, fun x hx => ?_, fun x hx => ?_⟩
  · -- The stretch in front has code, and its last item is the one before.
    rcases List.eq_nil_or_concat' earlier with rfl | ⟨others, t, rfl⟩
    · cases hx
    · have hcode : t.code ≠ [] := by
        refine h.code_ne_nil t ?_
        rw [List.dropLast_append_of_ne_nil (List.cons_ne_nil _ _)]
        simp
      rw [List.flatMap_append, List.flatMap_singleton, Stretch.items, ← List.append_assoc,
        List.getLast?_append_of_ne_nil _ hcode] at hx
      exact h.code t (by simp) x (List.mem_of_getLast? hx)
  · -- The first item behind is the code of the stretch, unless it is the last and has none.
    cases hcode : s.code with
    | nil =>
      cases later with
      | nil =>
        rw [hcode] at hx
        cases hx
      | cons next later =>
        refine absurd hcode (h.code_ne_nil s ?_)
        rw [List.dropLast_append_of_ne_nil (List.cons_ne_nil _ _),
          List.dropLast_cons_of_ne_nil (List.cons_ne_nil _ _)]
        simp
    | cons y code =>
      rw [hcode, List.cons_append, List.head?_cons, Option.mem_some_iff] at hx
      exact h.code s hs x (by rw [hcode, ← hx]; exact List.mem_cons_self)

/-- Numbered lines in a row have their places as numbers. -/
theorem map_snd_of_zipIdx_eq {α : Type} {items : List α} {before middle behind : List (α × Nat)}
    (h : items.zipIdx = before ++ (middle ++ behind)) :
    middle.map Prod.snd = List.range' before.length middle.length := by
  have hnumbers : List.range' 0 items.length
      = before.map Prod.snd ++ (middle.map Prod.snd ++ behind.map Prod.snd) := by
    rw [← List.zipIdx_map_snd 0 items, h, List.map_append, List.map_append]
  obtain ⟨m, -, hbefore, hrest⟩ := List.range'_eq_append_iff.mp hnumbers
  obtain ⟨n, -, hmiddle, -⟩ := List.range'_eq_append_iff.mp hrest.symm
  have hm : before.length = m := by
    rw [← List.length_map (f := Prod.snd), hbefore, List.length_range']
  have hn : middle.length = n := by
    rw [← List.length_map (f := Prod.snd), hmiddle, List.length_range']
  rw [hmiddle, hm, hn, Nat.mul_one, Nat.zero_add]

variable {profile : Profile} {lines : List Text} {source : Text} {s : Section}
  {first last i : Nat} {doc : DocLine × Text}

/-- A line that is not there, or is code, is no documentation. -/
theorem docAt?_eq_none (h : ∀ x ∈ lines.zipIdx[i]?, isDoc profile x.1 = false) :
    docAt? profile lines i = none := by
  rw [List.getElem?_zipIdx] at h
  cases hline : lines[i]? with
  | none => rw [docAt?, hline, Option.bind_none]
  | some line =>
    have hcode : isDoc profile line = false := h (line, 0 + i) (by rw [hline]; rfl)
    rw [isDoc, Option.isSome_eq_false_iff, Option.isNone_iff_eq_none] at hcode
    rw [docAt?, hline, Option.bind_some, hcode]

/-- The documentation of a stretch of numbered lines is a run. -/
theorem exists_run_of_mem {part : Stretch (Text × Nat)}
    (hpart : part ∈ numberedStretches profile lines) :
    ∃ first last, IsRun profile lines first last ∧
      part.docs.map Prod.snd = List.range' first (last - first) := by
  have hpartition := isPartition_numberedStretches profile lines
  obtain ⟨before, behind, hlines, hbefore, hbehind⟩ := hpartition.exists_split hpart
  refine ⟨before.length, before.length + part.docs.length, ⟨?docs, ?before, ?behind⟩, ?_⟩
  case docs =>
    intro i hfirst hlast
    have hi : i - before.length < part.docs.length := by omega
    have hat : lines.zipIdx[i]? = some part.docs[i - before.length] := by
      rw [hlines, List.getElem?_append_right hfirst, List.getElem?_append_left hi,
        List.getElem?_eq_getElem hi]
    have hdoc := hpartition.docs part hpart _ (List.getElem_mem hi)
    rw [List.getElem?_zipIdx] at hat
    obtain ⟨line, hget, heq⟩ := Option.map_eq_some_iff.mp hat
    rw [docAt?, hget, Option.bind_some]
    rw [← heq] at hdoc
    exact hdoc
  case before =>
    intro i hi
    refine docAt?_eq_none fun x hx => hbefore x ?_
    rwa [hlines, List.getElem?_append_left (by omega), ← Nat.add_sub_cancel (n := i) (m := 1),
      ← hi, ← List.getLast?_eq_getElem?] at hx
  case behind =>
    refine docAt?_eq_none fun x hx => hbehind x ?_
    rwa [hlines, List.getElem?_append_right (by omega), Nat.add_sub_cancel_left,
      List.getElem?_append_right (Nat.le_refl _), Nat.sub_self, ← List.head?_eq_getElem?] at hx
  · rw [map_snd_of_zipIdx_eq hlines, Nat.add_sub_cancel_left]

/-! ### The section of a line -/

/-- Every documentation line is in the documentation of a section. -/
theorem exists_hasLine (h : docAt? profile (sourceLines source) i = some doc) :
    ∃ s first last, HasLine profile source s first last i := by
  obtain ⟨line, hline, hclass⟩ := Option.bind_eq_some_iff.mp h
  have hpartition := isPartition_numberedStretches profile (sourceLines source)
  have hmem : (line, i) ∈ (sourceLines source).zipIdx := List.mem_zipIdx_iff_getElem?.mpr hline
  rw [← hpartition.covers] at hmem
  obtain ⟨part, hpart, hitem⟩ := List.mem_flatMap.mp hmem
  have hdocs : (line, i) ∈ part.docs := by
    rcases List.mem_append.mp hitem with hdocs | hcode
    · exact hdocs
    · have hnot := hpartition.code part hpart _ hcode
      simp [isDoc, hclass] at hnot
  obtain ⟨first, last, hrun, hnumbers⟩ := exists_run_of_mem hpart
  have hi : i ∈ List.range' first (last - first) := by
    rw [← hnumbers]
    exact List.mem_map_of_mem hdocs
  rw [List.mem_range'_1] at hi
  -- The text of the stretch is the text of one of the sections.
  have htext : docsText profile (sourceLines source) first last
      ∈ (profile.segment source).map Section.docs := by
    rw [map_docs_segment, docsText, ← hnumbers, List.flatMap_map]
    exact List.mem_map_of_mem hpart
  obtain ⟨s, hs, hsdocs⟩ := List.mem_map.mp htext
  exact ⟨s, first, last, hs, hrun, hi.1, by omega, hsdocs⟩

theorem docsText_self (profile : Profile) (lines : List Text) (i : Nat) :
    docsText profile lines i i = [] := by
  rw [docsText, Nat.sub_self]
  rfl

/-- The text of a run, cut at one of its lines. -/
theorem docsText_split (profile : Profile) (lines : List Text) (hfirst : first ≤ i)
    (hlast : i < last) :
    docsText profile lines first last
      = docsText profile lines first i
        ++ (contribution profile lines i ++ docsText profile lines (i + 1) last) := by
  have hcount : last - first = (i - first) + (1 + (last - (i + 1))) := by omega
  have hi : first + (i - first) = i := by omega
  simp only [docsText]
  rw [hcount, ← List.range'_append_1, hi, ← List.range'_append_1, List.flatMap_append,
    List.flatMap_append]
  simp

/-- The text of a run up to and with a line. -/
theorem docsText_succ (profile : Profile) (lines : List Text) (hfirst : first ≤ i) :
    docsText profile lines first (i + 1)
      = docsText profile lines first i ++ contribution profile lines i := by
  rw [docsText_split profile lines hfirst (Nat.lt_succ_self i), docsText_self, List.append_nil]

/-- The documentation of a section, cut at one of its lines. -/
theorem HasLine.docs_split (h : HasLine profile source s first last i) :
    s.docs = docsText profile (sourceLines source) first i
      ++ (contribution profile (sourceLines source) i
        ++ docsText profile (sourceLines source) (i + 1) last) := by
  rw [h.docs, docsText_split _ _ h.first_le h.lt_last]

end Marginalia.Segment
