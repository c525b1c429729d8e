import Marginalia.Proofs.Segment.Contribution
import Marginalia.Proofs.Segment.Stretch
import Marginalia.Proofs.Text.Lines

/-!
# `Marginalia.Proofs.Segment.Sections`: the sections of a file are its stretches

By `segment_eq_blocks` the sections of a file are groups of pieces, and
how these are grouped depends on nothing but the texts that they hold.
This file goes back to the lines, which are those that the text is cut
into but for a first one that begins with `#!` (`exists_sourceLines`):

* `segment_partition`: the sections are the stretches of the lines. None
  is lost or doubled, the code of each is unchanged, and a new section
  begins only where documentation follows code.
* `segment_docs`: the documentation of a section is what its
  documentation lines contribute, in order.

Both come from `segment_eq`, which has the lines with their numbers: what
a line contributes depends on where it stands.
-/

set_option autoImplicit false

namespace Marginalia.Segment

open Marginalia.Language (Profile)

/-- The stretches of the numbered lines of a file. -/
def numberedStretches (profile : Profile) (lines : List Text) : List (Stretch (Text × Nat)) :=
  stretches (isDoc profile ∘ Prod.fst) lines.zipIdx

/-- The block that a stretch of numbered lines comes to. -/
def blockOf (profile : Profile) (lines : List Text) (part : Stretch (Text × Nat)) : Block where
  docs := part.docs.flatMap fun (_, i) => contribution profile lines i
  code := Text.unlines (part.code.map Prod.fst)

variable {profile : Profile} {lines : List Text}

theorem isPartition_numberedStretches (profile : Profile) (lines : List Text) :
    IsPartition (isDoc profile ∘ Prod.fst) lines.zipIdx (numberedStretches profile lines) :=
  isPartition_stretches _ _

/-- Without the numbers, these are the stretches of the lines. -/
theorem map_numberedStretches (profile : Profile) (lines : List Text) :
    (numberedStretches profile lines).map (Stretch.map Prod.fst)
      = stretches (isDoc profile) lines := by
  rw [numberedStretches, ← stretches_map, List.zipIdx_map_fst]

/-! ### Grouping pieces is grouping lines -/

/-- The numbered lines whose documentation contributes something. -/
def Contributes (profile : Profile) (lines : List Text) (numbered : Text × Nat) : Prop :=
  isDoc profile numbered.1 = true → contribution profile lines numbered.2 ≠ []

/-- The lines of the file itself all do. -/
theorem contributes_of_mem_zipIdx {numbered : Text × Nat} (h : numbered ∈ lines.zipIdx) :
    Contributes profile lines numbered := by
  intro hdoc
  obtain ⟨⟨kind, rest⟩, hclass⟩ := Option.isSome_iff_exists.mp hdoc
  have hline : lines[numbered.2]? = some numbered.1 := List.mem_zipIdx_iff_getElem?.mp h
  have hdocAt : docAt? profile lines numbered.2 = some (kind, rest) := by
    rw [docAt?, hline, Option.bind_some, hclass]
  exact contribution_ne_nil hdocAt

/-- A block lacks documentation exactly when its stretch does. -/
theorem blockOf_docs_eq_nil_iff {part : Stretch (Text × Nat)}
    (hdoc : ∀ x ∈ part.docs, isDoc profile x.1 = true)
    (hpart : ∀ x ∈ part.docs, Contributes profile lines x) :
    (blockOf profile lines part).docs = [] ↔ part.docs = [] := by
  constructor
  · intro hnil
    cases hdocs : part.docs with
    | nil => rfl
    | cons x docs =>
      have hmem : x ∈ part.docs := by rw [hdocs]; exact List.mem_cons_self
      exact absurd (List.flatMap_eq_nil_iff.mp hnil x hmem) (hpart x hmem (hdoc x hmem))
  · intro hnil
    rw [blockOf, hnil]
    rfl

/-- A piece joins the blocks as its line joins the stretches. -/
theorem consPiece_pieceAt (x : Text × Nat) {part : Stretch (Text × Nat)}
    (parts : List (Stretch (Text × Nat)))
    (hpart : (blockOf profile lines part).docs = [] ↔ part.docs = []) :
    consPiece (pieceAt profile lines x) ((part :: parts).map (blockOf profile lines))
      = (consStretch (isDoc profile ∘ Prod.fst) x (part :: parts)).map (blockOf profile lines) := by
  cases hdoc : (isDoc profile ∘ Prod.fst) x with
  | true =>
    have hpiece : pieceAt profile lines x = .docs (contribution profile lines x.2) := if_pos hdoc
    rw [consStretch_of_doc hdoc, hpiece]
    rfl
  | false =>
    have hpiece : pieceAt profile lines x = .code x.1 := if_neg (ne_true_of_eq_false hdoc)
    rw [hpiece, List.map_cons]
    by_cases hdocs : part.docs = []
    · rw [consStretch_of_code hdoc hdocs, consPiece, if_pos (hpart.mpr hdocs)]
      simp [blockOf, Text.unlines]
    · rw [consStretch_of_turn hdoc hdocs, consPiece, if_neg (fun h => hdocs (hpart.mp h))]
      simp [blockOf, Text.unlines]

/-- The blocks of lines that all contribute are their stretches. -/
theorem blocks_map_pieceAt {numbered : List (Text × Nat)}
    (h : ∀ x ∈ numbered, Contributes profile lines x) :
    blocks (numbered.map (pieceAt profile lines))
      = (stretches (isDoc profile ∘ Prod.fst) numbered).map (blockOf profile lines) := by
  induction numbered with
  | nil => rfl
  | cons x numbered ih =>
    have hpartition := isPartition_stretches (isDoc profile ∘ Prod.fst) numbered
    obtain ⟨part, parts, hparts⟩ := List.exists_cons_of_ne_nil hpartition.nonempty
    have hmem : part ∈ stretches (isDoc profile ∘ Prod.fst) numbered := by
      rw [hparts]
      exact List.mem_cons_self
    have hpart : ∀ y ∈ part.docs, Contributes profile lines y := by
      intro y hy
      exact h y (List.mem_cons_of_mem x (hpartition.mem_of_mem_docs hmem hy))
    -- `consPiece` looks at the text of the docs, `consStretch` at the lines; `hpart` ties the two.
    have hcons := consPiece_pieceAt x parts
      (blockOf_docs_eq_nil_iff (hpartition.docs part hmem) hpart)
    rw [List.map_cons, blocks, List.foldr_cons, ← blocks,
      ih (fun y hy => h y (List.mem_cons_of_mem x hy)), hparts, hcons, stretches_cons, hparts]

/-- The sections of a file are the stretches of its numbered lines, with
numbers of their own. -/
theorem segment_eq (profile : Profile) (source : Text) :
    profile.segment source
      = number ((numberedStretches profile (sourceLines source)).map
          (blockOf profile (sourceLines source))) := by
  rw [segment_eq_blocks, pieces_eq, blocks_map_pieceAt (fun _ => contributes_of_mem_zipIdx),
    numberedStretches]

/-! ### Numbers -/

/-- Numbering changes nothing in the blocks. -/
theorem map_number {β : Type} (f : Section → β) (g : Block → β)
    (h : ∀ block index, f ⟨index, block.docs, block.code⟩ = g block) (blocks : List Block) :
    (number blocks).map f = blocks.map g := by
  have hblocks : (blocks.zipIdx.map Prod.fst).map g = blocks.map g := by
    rw [List.zipIdx_map_fst]
  rw [number, numberFrom, List.map_map, ← hblocks, List.map_map]
  exact List.map_congr_left fun numbered _ => h numbered.1 numbered.2

theorem length_number (blocks : List Block) : (number blocks).length = blocks.length := by
  rw [number, numberFrom, List.length_map, List.length_zipIdx]

/-- The number of a block is its place. -/
theorem map_index_number (blocks : List Block) :
    (number blocks).map Section.index = List.range blocks.length := by
  have hindices : blocks.zipIdx.map Prod.snd = List.range blocks.length := by
    rw [List.zipIdx_map_snd, List.range_eq_range']
  rw [number, numberFrom, List.map_map, ← hindices]
  rfl

/-! ### The sections -/

/-- The sections of some lines, one for each of the stretches `parts`:

- `partition`, `unique`: the stretches are a division of the lines, and
  there is no other;
- `length`: there is one section, and one more for each place where code
  is directly followed by documentation;
- `index`: a section's number is its place;
- `code`: its code is that of its stretch, each line unchanged and with a
  line feed;
- `docs`: it has documentation exactly when its stretch has;
- `all_code`: the sections in order have the code of the file, every line
  once;
- `code_ne_nil`, `docs_ne_nil`: only the last may lack code, and only the
  first may lack documentation. -/
structure IsSegmentation (profile : Profile) (lines : List Text) (parts : List (Stretch Text))
    (sections : List Section) : Prop where
  partition : IsPartition (isDoc profile) lines parts
  unique : ∀ other, IsPartition (isDoc profile) lines other → other = parts
  length : sections.length = 1 + turns (isDoc profile) lines
  index : sections.map Section.index = List.range sections.length
  code : sections.map Section.code = parts.map fun part => Text.unlines part.code
  docs : sections.map (·.docs.isEmpty) = parts.map (·.docs.isEmpty)
  all_code : sections.flatMap Section.code = Text.unlines (lines.filter (!isDoc profile ·))
  code_ne_nil : ∀ s ∈ sections.dropLast, s.code ≠ []
  docs_ne_nil : ∀ s ∈ sections.tail, s.docs ≠ []

theorem map_code_segment (profile : Profile) (source : Text) :
    (profile.segment source).map Section.code
      = (stretches (isDoc profile) (sourceLines source)).map
          fun part => Text.unlines part.code := by
  rw [segment_eq, map_number Section.code Block.code (fun _ _ => rfl), List.map_map,
    ← map_numberedStretches, List.map_map]
  rfl

theorem map_docs_segment (profile : Profile) (source : Text) :
    (profile.segment source).map Section.docs
      = (numberedStretches profile (sourceLines source)).map
          fun part => part.docs.flatMap fun (_, i) =>
            contribution profile (sourceLines source) i := by
  rw [segment_eq, map_number Section.docs Block.docs (fun _ _ => rfl), List.map_map]
  rfl

/-- A section has documentation exactly when its stretch has, since every
documentation line contributes something. -/
theorem map_docs_isEmpty_segment (profile : Profile) (source : Text) :
    (profile.segment source).map (·.docs.isEmpty)
      = (stretches (isDoc profile) (sourceLines source)).map (·.docs.isEmpty) := by
  have hpartition := isPartition_numberedStretches profile (sourceLines source)
  rw [segment_eq, map_number (·.docs.isEmpty) (·.docs.isEmpty) (fun _ _ => rfl),
    ← map_numberedStretches, List.map_map, List.map_map]
  refine List.map_congr_left fun part hpart => ?_
  have hcontributes : ∀ x ∈ part.docs, Contributes profile (sourceLines source) x := by
    intro x hx
    exact contributes_of_mem_zipIdx (hpartition.mem_of_mem_docs hpart hx)
  have hiff := blockOf_docs_eq_nil_iff (hpartition.docs part hpart) hcontributes
  show (blockOf profile (sourceLines source) part).docs.isEmpty = (part.docs.map Prod.fst).isEmpty
  rw [List.isEmpty_map, Bool.eq_iff_iff, List.isEmpty_iff, List.isEmpty_iff, hiff]

theorem length_segment (profile : Profile) (source : Text) :
    (profile.segment source).length = 1 + turns (isDoc profile) (sourceLines source) := by
  rw [← length_stretches, ← List.length_map (f := Section.code), map_code_segment,
    List.length_map]

/-- Every section but the last has code. -/
theorem code_ne_nil_of_mem_dropLast {source : Text} {s : Section}
    (hs : s ∈ (profile.segment source).dropLast) : s.code ≠ [] := by
  have hpartition := isPartition_stretches (isDoc profile) (sourceLines source)
  have hmem : s.code ∈ ((profile.segment source).map Section.code).dropLast := by
    rw [← List.map_dropLast]
    exact List.mem_map_of_mem hs
  rw [map_code_segment, ← List.map_dropLast] at hmem
  obtain ⟨part, hpart, hcode⟩ := List.mem_map.mp hmem
  rw [← hcode]
  exact Text.unlines_ne_nil (hpartition.code_ne_nil part hpart)

/-- Every section but the first has documentation. -/
theorem docs_ne_nil_of_mem_tail {source : Text} {s : Section}
    (hs : s ∈ (profile.segment source).tail) : s.docs ≠ [] := by
  have hpartition := isPartition_stretches (isDoc profile) (sourceLines source)
  have hmem : s.docs.isEmpty ∈ ((profile.segment source).map (·.docs.isEmpty)).tail := by
    rw [← List.map_tail]
    exact List.mem_map_of_mem hs
  rw [map_docs_isEmpty_segment, ← List.map_tail] at hmem
  obtain ⟨part, hpart, hempty⟩ := List.mem_map.mp hmem
  intro hnil
  rw [hnil] at hempty
  exact hpartition.docs_ne_nil part hpart (List.isEmpty_iff.mp hempty)

/-- The lines that count are all lines, but for a first one that begins
with `#!`. -/
theorem exists_sourceLines (source : Text) :
    ∃ first rest, Text.lines source = first :: rest ∧
      sourceLines source = if ['#', '!'] <+: first then rest else first :: rest := by
  obtain ⟨first, rest, hlines⟩ := Text.exists_splitOn_eq_cons '\n' source
  have hbegins : Text.begins "#!" first = true ↔ ['#', '!'] <+: first := by
    rw [Text.begins_iff]
    exact exists_congr fun tail => eq_comm
  refine ⟨first, rest, hlines, ?_⟩
  rw [sourceLines, Text.lines, hlines]
  exact if_congr hbegins rfl rfl

/-- **Segmentation divides the lines.** The lines are those of the text,
without the first one when it begins with `#!`. The sections of a source
file are the stretches of its lines, in order and without gaps. -/
theorem segment_partition (profile : Profile) (source : Text) :
    ∃ first rest lines parts, Text.lines source = first :: rest ∧
      lines = (if ['#', '!'] <+: first then rest else first :: rest) ∧
      IsSegmentation profile lines parts (profile.segment source) := by
  obtain ⟨first, rest, hlines, hsource⟩ := exists_sourceLines source
  have hpartition := isPartition_stretches (isDoc profile) (sourceLines source)
  have hcode := map_code_segment profile source
  refine ⟨first, rest, sourceLines source, stretches (isDoc profile) (sourceLines source), hlines,
    hsource, hpartition, fun _ hother => hother.eq_stretches, length_segment profile source,
    ?index, hcode, map_docs_isEmpty_segment profile source,
    ?all_code, fun _ hs => code_ne_nil_of_mem_dropLast hs, fun _ hs => docs_ne_nil_of_mem_tail hs⟩
  case index =>
    rw [segment_eq, map_index_number, length_number]
  case all_code =>
    rw [List.flatMap_def, hcode, ← List.flatMap_def, ← hpartition.flatMap_code,
      Text.unlines_flatMap]

/-- **Documentation, line by line.** Number the lines of a source file,
without the first one when it begins with `#!`, and divide them into
stretches. Then the documentation of a section is what the documentation
lines of its stretch contribute, in order. -/
theorem segment_docs (profile : Profile) (source : Text) :
    ∃ first rest lines, ∃ parts : List (Stretch (Text × Nat)),
      Text.lines source = first :: rest ∧
      lines = (if ['#', '!'] <+: first then rest else first :: rest) ∧
      IsPartition (isDoc profile ∘ Prod.fst) lines.zipIdx parts ∧
      (profile.segment source).map Section.docs
        = parts.map fun part => part.docs.flatMap fun numbered =>
            contribution profile lines numbered.2 := by
  obtain ⟨first, rest, hlines, hsource⟩ := exists_sourceLines source
  exact ⟨first, rest, sourceLines source, numberedStretches profile (sourceLines source), hlines,
    hsource, isPartition_numberedStretches profile (sourceLines source),
    map_docs_segment profile source⟩

-- Code between two tags does not end the sentence, and the slash ends the docblock.
example : (Profile.segment ⟨"php", ["//"], by decide, by decide, by decide⟩
    "/**\n * @param int x one\nx\n * @param int y two\n * @return z\n */\n// @param").map
      Section.docs
    = ["\nTakes \x60int x\x60 one\n",
      " and \x60int y\x60 two\n. Returns \x60z\x60\n. @param\n"] := by
  decide +kernel

end Marginalia.Segment
