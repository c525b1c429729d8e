import Marginalia.Proofs.Segment.Sections

/-!
# `Marginalia.Proofs.Segment.Concatenation`: two texts in a row

`segment_append` says that segmentation is compositional. Put a line feed
and a second text behind a first one. Then the sections are those of the
two texts, put together by `mergeSections`: only the last section of the
first text and the first section of the second are looked at.

Two things could leak across the seam. The first pass carries a state
from line to line, and an opening looks ahead for a function without any
bound. `Sealed` rules out both: the last docblock of the first text is
closed (`stateAt_sealed`), and each of its openings finds what it looks
for before the text ends (`documented?_sealed`). With that, the pieces of
the two texts are independent (`pieces_append`).

How pieces form blocks needs no such assumption (`blocks_append`).
-/

set_option autoImplicit false

namespace Marginalia.Segment

open Marginalia.Language (Profile)

/-! ### Blocks of pieces in a row -/

/-- The sections without their numbers. -/
def unnumber (sections : List Section) : List Block :=
  sections.map fun s => ⟨s.docs, s.code⟩

/-- The sections of two texts in a row. The two lists are appended when
the last section of the first has code and the first section of the
second has documentation. Otherwise these two sections become one, which
has the documentation and the code of both. The numbers are given
anew. -/
def mergeSections (front back : List Section) : List Section :=
  number (joinBlocks (unnumber front) (unnumber back))

theorem unnumber_number (blocks : List Block) : unnumber (number blocks) = blocks := by
  have hid : (number blocks).map (fun s => (⟨s.docs, s.code⟩ : Block)) = blocks.map id :=
    map_number _ _ (fun _ _ => rfl) blocks
  rw [unnumber, hid, List.map_id]

/-- A piece in front of two texts is a piece in front of the first. The
first has a single block or more; only in a single one does the piece
meet the seam. -/
theorem consPiece_joinBlocks (piece : Piece) (block first : Block) (front back : List Block) :
    consPiece piece (joinBlocks (block :: front) (first :: back))
      = joinBlocks (consPiece piece (block :: front)) (first :: back) := by
  cases front with
  | nil =>
    cases piece with
    | docs text =>
      -- Whether the two blocks stay apart does not depend on the documentation of the first.
      by_cases hseam : block.code ≠ [] ∧ first.docs ≠ []
      · simp only [joinBlocks, consPiece, if_pos hseam]
      · simp only [joinBlocks, consPiece, if_neg hseam, List.append_assoc]
    | code line =>
      by_cases hdocs : block.docs = []
      · -- The line joins the block, which then has code, so only the second text decides.
        by_cases hfirst : first.docs = []
        · simp [joinBlocks, consPiece, hdocs, hfirst]
        · by_cases hcode : block.code = [] <;>
            simp [joinBlocks, consPiece, hdocs, hfirst, hcode]
      · -- The line is a block of its own, in front of the seam.
        by_cases hseam : block.code ≠ [] ∧ first.docs ≠ []
        · simp only [joinBlocks, consPiece, if_pos hseam, if_neg hdocs]
        · have hfused : block.docs ++ first.docs ≠ [] :=
            List.append_ne_nil_of_left_ne_nil hdocs _
          simp only [joinBlocks, consPiece, if_neg hseam, if_neg hdocs, if_neg hfused]
  | cons next front =>
    cases piece with
    | docs text => rfl
    | code line =>
      by_cases hdocs : block.docs = []
      · simp only [joinBlocks, consPiece, if_pos hdocs]
      · simp only [joinBlocks, consPiece, if_neg hdocs]

/-- The blocks of pieces in a row are those of either part, joined. -/
theorem blocks_append (front back : List Piece) :
    blocks (front ++ back) = joinBlocks (blocks front) (blocks back) := by
  obtain ⟨first, rest, hback⟩ := exists_blocks_eq_cons back
  rw [hback]
  induction front with
  | nil =>
    have hempty : joinBlocks (blocks []) (first :: rest) = first :: rest := by
      simp [blocks, joinBlocks]
    rw [hempty, List.nil_append, hback]
  | cons piece front ih =>
    obtain ⟨block, others, hfront⟩ := exists_blocks_eq_cons front
    rw [hfront] at ih
    have hcons : blocks (piece :: front) = consPiece piece (block :: others) := by
      rw [blocks, List.foldr_cons, ← blocks, hfront]
    have happend : blocks (piece :: front ++ back) = consPiece piece (blocks (front ++ back)) :=
      rfl
    rw [happend, ih, hcons, consPiece_joinBlocks]

/-! ### The end of a text -/

/-- The last number below `n` that has a property. -/
def lastBelow? (p : Nat → Prop) [DecidablePred p] : (n : Nat) → Option Nat
  | 0 => none
  | n + 1 => if p n then some n else lastBelow? p n

theorem lastBelow?_eq_some {p : Nat → Prop} [DecidablePred p] {n i : Nat} (hi : i < n)
    (hp : p i) :
    ∃ j, lastBelow? p n = some j ∧ p j ∧ i ≤ j := by
  induction n with
  | zero => omega
  | succ n ih =>
    by_cases hn : p n
    · exact ⟨n, if_pos hn, hn, by omega⟩
    · have hne : i ≠ n := fun heq => hn (heq ▸ hp)
      obtain ⟨j, hj, hpj, hij⟩ := ih (by omega)
      exact ⟨j, by rw [lastBelow?, if_neg hn, hj], hpj, hij⟩

section
variable (profile : Profile) (lines : List Text)

/-- The last line that opens or closes a docblock. -/
def lastMark? : Option Nat :=
  lastBelow? (fun i => OpensAt profile lines i ∨ ClosesAt profile lines i) lines.length

/-- The last line that opens a docblock. -/
def lastOpening? : Option Nat :=
  lastBelow? (OpensAt profile lines) lines.length

/-- Nothing that a text has begun is left open at its end:

- `closed`: the last line that opens or closes a docblock, if there is
  one, closes it;
- `named`: behind the last line that opens one, if there is one, stands a
  function signature. -/
structure Sealed : Prop where
  closed : ∀ i ∈ lastMark? profile lines, ClosesAt profile lines i
  named : ∀ i ∈ lastOpening? profile lines,
    ∃ line ∈ lines.drop (i + 1), (signature? line).isSome = true

end

variable {profile : Profile} {lines front back : List Text} {i : Nat}

/-- Documentation lines are lines. -/
theorem lt_length_of_docAt? {doc : DocLine × Text} (h : docAt? profile lines i = some doc) :
    i < lines.length := by
  by_contra hge
  rw [docAt?, List.getElem?_eq_none (by omega)] at h
  cases h

theorem exists_docAt?_of_opensAt (h : OpensAt profile lines i) :
    ∃ rest, docAt? profile lines i = some (.opening, rest) := by
  cases hdoc : docAt? profile lines i with
  | none => simp [OpensAt, hdoc] at h
  | some doc =>
    obtain ⟨kind, rest⟩ := doc
    exact ⟨rest, by rw [(opensAt_iff hdoc).mp h]⟩

theorem lt_length_of_opensAt (h : OpensAt profile lines i) : i < lines.length := by
  obtain ⟨rest, hdoc⟩ := exists_docAt?_of_opensAt h
  exact lt_length_of_docAt? hdoc

theorem lt_length_of_closesAt (h : ClosesAt profile lines i) : i < lines.length := by
  cases hdoc : docAt? profile lines i with
  | none => simp [ClosesAt, hdoc] at h
  | some doc => exact lt_length_of_docAt? hdoc

/-- No line both opens a docblock and closes one. -/
theorem not_closesAt_of_opensAt (h : OpensAt profile lines i) : ¬ClosesAt profile lines i := by
  obtain ⟨rest, hdoc⟩ := exists_docAt?_of_opensAt h
  rw [closesAt_iff hdoc, closes_opening]
  decide

/-- The end of a sealed text is not inside a docblock. -/
theorem not_inside_of_sealed (h : Sealed profile lines) :
    ¬Inside profile lines lines.length := by
  rintro ⟨j, hj, hopens, hkeeps⟩
  obtain ⟨k, hmark, -, hjk⟩ : ∃ k, lastMark? profile lines = some k ∧ _ ∧ j ≤ k :=
    lastBelow?_eq_some hj (Or.inl hopens)
  have hcloses : ClosesAt profile lines k := h.closed k hmark
  by_cases heq : j = k
  · subst heq
    exact not_closesAt_of_opensAt hopens hcloses
  · exact hkeeps k (lt_length_of_closesAt hcloses) (by omega) hcloses

/-- The first pass leaves a sealed text in the state in which it begins
one. -/
theorem stateAt_sealed (h : Sealed profile lines) :
    stateAt profile lines lines.length = .outside := by
  have houtside := not_inside_of_sealed h
  rw [stateAt, decide_eq_false houtside, previousKind_of_not_inside houtside]
  rfl

/-! ### What an opening looks ahead for -/

/-- The search for a function ends in the first lines, when one of them
has a signature or opens a docblock. -/
theorem documented?_append
    (h : ∃ line ∈ front, (signature? line).isSome = true ∨ opensDocblock profile line = true) :
    documented? profile (front ++ back) = documented? profile front := by
  induction front with
  | nil =>
    obtain ⟨line, hline, -⟩ := h
    cases hline
  | cons line front ih =>
    rw [List.cons_append, documented?, documented?]
    cases hsignature : signature? line with
    | some name => rfl
    | none =>
      by_cases hopens : opensDocblock profile line = true
      · simp only [if_pos hopens]
      · -- The search goes past this line, so what ends it lies behind.
        simp only [if_neg hopens]
        obtain ⟨found, hfound, hends⟩ := h
        rcases List.mem_cons.mp hfound with rfl | hfound
        · rw [hsignature] at hends
          rcases hends with hends | hends
          · cases hends
          · exact absurd hends hopens
        · exact ih ⟨found, hfound, hends⟩

/-- A line that opens a docblock is found among those behind an earlier
one. -/
theorem exists_opening_of_opensAt {j : Nat} (hij : i < j) (h : OpensAt profile lines j) :
    ∃ line ∈ lines.drop (i + 1), opensDocblock profile line = true := by
  have hj := lt_length_of_opensAt h
  refine ⟨lines[j], ?_, ?_⟩
  · rw [List.mem_drop_iff_getElem]
    refine ⟨j - (i + 1), by omega, ?_⟩
    congr 1
    omega
  · rw [OpensAt, docAt?, List.getElem?_eq_getElem hj, Option.bind_some] at h
    exact h

/-- What an opening in a sealed text is about does not depend on what
comes behind the text. -/
theorem documented?_sealed (h : Sealed profile front) (hopens : OpensAt profile front i)
    (back : List Text) :
    documented? profile ((front ++ back).drop (i + 1))
      = documented? profile (front.drop (i + 1)) := by
  have hi : i + 1 ≤ front.length := lt_length_of_opensAt hopens
  rw [List.drop_append_of_le_length hi]
  apply documented?_append
  obtain ⟨j, hlast, hlater, hij⟩ := lastBelow?_eq_some hi hopens
  by_cases heq : i = j
  · -- The last opening has a signature behind it, and any other has another opening.
    subst heq
    obtain ⟨line, hline, hsignature⟩ := h.named i hlast
    exact ⟨line, hline, Or.inl hsignature⟩
  · have hlt : i < j := by omega
    obtain ⟨line, hline, hopening⟩ := exists_opening_of_opensAt hlt hlater
    exact ⟨line, hline, Or.inr hopening⟩

/-! ### Pieces of texts in a row -/

/-- What a line contributes is read off the state at it, whatever stands
in front, and only an opening looks at the lines behind. -/
theorem contribute_congr {state : Docblock} {kind : DocLine} {rest : Text}
    {following following' : List Text}
    (h : kind = .opening → documented? profile following = documented? profile following') :
    contribute profile state kind rest following
      = contribute profile state kind rest following' := by
  by_cases hkind : kind = .opening
  · rw [contribute, contribute, h hkind]
  · simp only [contribute, if_neg hkind]

/-- The state behind a line does not depend on the lines behind it. -/
theorem contribute_snd (profile : Profile) (state : Docblock) (kind : DocLine) (rest : Text)
    (following following' : List Text) :
    (contribute profile state kind rest following).2
      = (contribute profile state kind rest following').2 := by
  by_cases hkind : kind = .opening
  · simp only [contribute, if_pos hkind]
    cases documented? profile following <;> cases documented? profile following' <;> rfl
  · rw [contribute_congr (fun heq => absurd heq hkind)]

section
variable {lines' : List Text} {j : Nat}

/-- Where two files have the same line and have reached the same state,
they reach the same state behind it. -/
theorem stateAt_succ_congr (hdoc : docAt? profile lines i = docAt? profile lines' j)
    (hstate : stateAt profile lines i = stateAt profile lines' j) :
    stateAt profile lines (i + 1) = stateAt profile lines' (j + 1) := by
  cases hline : docAt? profile lines i with
  | none =>
    rw [stateAt_succ_of_code hline, stateAt_succ_of_code (hdoc ▸ hline), hstate]
  | some doc =>
    obtain ⟨kind, rest⟩ := doc
    have hstep := contribute_stateAt hline
    have hstep' := contribute_stateAt (hdoc ▸ hline)
    have hsnd := contribute_snd profile (stateAt profile lines i) kind rest
      (lines.drop (i + 1)) (lines'.drop (j + 1))
    rw [hstep, hstate, hstep'] at hsnd
    exact hsnd

/-- Where two files have the same line, have reached the same state and
are about the same function, the lines contribute the same. -/
theorem contribution_congr (hdoc : docAt? profile lines i = docAt? profile lines' j)
    (hstate : stateAt profile lines i = stateAt profile lines' j)
    (hfunction : OpensAt profile lines i →
      documented? profile (lines.drop (i + 1)) = documented? profile (lines'.drop (j + 1))) :
    contribution profile lines i = contribution profile lines' j := by
  cases hline : docAt? profile lines i with
  | none => rw [contribution, contribution, ← hdoc, hline]
  | some doc =>
    obtain ⟨kind, rest⟩ := doc
    have hsame : contribute profile (stateAt profile lines i) kind rest (lines.drop (i + 1))
        = contribute profile (stateAt profile lines i) kind rest (lines'.drop (j + 1)) :=
      contribute_congr fun hkind => hfunction ((opensAt_iff hline).mpr hkind)
    rw [contribute_stateAt hline, hstate, contribute_stateAt (hdoc ▸ hline)] at hsame
    exact congrArg Prod.fst hsame

end

theorem docAt?_append_left (hi : i < front.length) (back : List Text) :
    docAt? profile (front ++ back) i = docAt? profile front i := by
  rw [docAt?, docAt?, List.getElem?_append_left hi]

theorem docAt?_append_right (front back : List Text) (i : Nat) :
    docAt? profile (front ++ back) (front.length + i) = docAt? profile back i := by
  rw [docAt?, docAt?, List.getElem?_append_right (by omega), Nat.add_sub_cancel_left]

/-- In the first text the pass does not notice the second. -/
theorem stateAt_append_left (hi : i ≤ front.length) (back : List Text) :
    stateAt profile (front ++ back) i = stateAt profile front i := by
  induction i with
  | zero => rw [stateAt_zero, stateAt_zero]
  | succ i ih => exact stateAt_succ_congr (docAt?_append_left hi back) (ih (by omega))

/-- Behind a sealed text the pass begins anew. -/
theorem stateAt_append_right (h : Sealed profile front) (back : List Text) (i : Nat) :
    stateAt profile (front ++ back) (front.length + i) = stateAt profile back i := by
  induction i with
  | zero =>
    rw [Nat.add_zero, stateAt_append_left (Nat.le_refl _), stateAt_sealed h, stateAt_zero]
  | succ i ih => exact stateAt_succ_congr (docAt?_append_right front back i) ih

/-- Lines in front of a seam contribute what they contribute alone. -/
theorem contribution_append_left (h : Sealed profile front) (hi : i < front.length)
    (back : List Text) :
    contribution profile (front ++ back) i = contribution profile front i := by
  have hdoc : docAt? profile (front ++ back) i = docAt? profile front i :=
    docAt?_append_left hi back
  refine contribution_congr hdoc (stateAt_append_left (by omega) back) (fun hopens => ?_)
  have hfront : OpensAt profile front i := by
    rw [OpensAt, ← hdoc]
    exact hopens
  exact documented?_sealed h hfront back

/-- Lines behind a seam contribute what they contribute alone. -/
theorem contribution_append_right (h : Sealed profile front) (back : List Text) (i : Nat) :
    contribution profile (front ++ back) (front.length + i) = contribution profile back i := by
  refine contribution_congr (docAt?_append_right front back i)
    (stateAt_append_right h back i) (fun _ => ?_)
  have hdrop : (front ++ back).drop (front.length + i + 1) = back.drop (i + 1) := by
    rw [Nat.add_assoc, List.drop_append, List.drop_of_length_le (by omega), List.nil_append,
      Nat.add_sub_cancel_left]
  rw [hdrop]

/-- The pieces of two texts in a row are those of either text, when the
first is sealed. -/
theorem pieces_append (h : Sealed profile front) (back : List Text) :
    pieces profile (front ++ back) = pieces profile front ++ pieces profile back := by
  rw [pieces_eq, pieces_eq, pieces_eq, List.zipIdx_append, List.map_append]
  congr 1
  · refine List.map_congr_left fun ⟨line, i⟩ hmem => ?_
    have hi : i < front.length := by
      have hlt := List.snd_lt_of_mem_zipIdx hmem
      omega
    rw [pieceAt, pieceAt, contribution_append_left h hi back]
  · -- The second text is numbered from the end of the first.
    rw [Nat.zero_add, List.zipIdx_eq_map_add, List.map_map]
    refine List.map_congr_left fun ⟨line, i⟩ _ => ?_
    show pieceAt profile (front ++ back) (line, front.length + i) = _
    rw [pieceAt, pieceAt, contribution_append_right h back i]

/-! ### Sections of texts in a row -/

/-- A text whose first line names no interpreter has all its lines. -/
theorem sourceLines_of_not_begins {source : Text} (h : Text.begins "#!" source = false) :
    sourceLines source = Text.lines source := by
  obtain ⟨first, rest, hlines⟩ := Text.exists_splitOn_eq_cons '\n' source
  have hfirst : ¬Text.begins "#!" first = true := by
    intro hbegins
    obtain ⟨tail, htail⟩ := Text.begins_iff.mp hbegins
    have hsource := Text.joinWith_splitOn '\n' source
    rw [hlines, Text.joinWith, htail, List.append_assoc] at hsource
    have hsome : Text.begins "#!" source = true := Text.begins_iff.mpr ⟨_, hsource.symm⟩
    rw [h] at hsome
    cases hsome
  rw [sourceLines, Text.lines, hlines]
  exact if_neg hfirst

/-- The lines that count of two texts in a row. -/
theorem sourceLines_append (a : Text) {b : Text} (hb : Text.begins "#!" b = false) :
    sourceLines (a ++ '\n' :: b) = sourceLines a ++ sourceLines b := by
  obtain ⟨first, rest, hlines⟩ := Text.exists_splitOn_eq_cons '\n' a
  rw [sourceLines_of_not_begins hb, sourceLines, sourceLines, Text.lines, Text.lines,
    Text.splitOn_append_cons, hlines]
  by_cases hfirst : Text.begins "#!" first = true
  · simp only [List.cons_append, if_pos hfirst, Text.lines]
  · simp only [List.cons_append, if_neg hfirst, Text.lines]

/-- **Segmentation is compositional.** Put a line feed and a second text
behind a sealed one. If the second does not begin with the name of an
interpreter, the sections are those of the two texts, merged at the
seam. -/
theorem segment_append (profile : Profile) (a b : Text) (ha : Sealed profile (sourceLines a))
    (hb : Text.begins "#!" b = false) :
    profile.segment (a ++ '\n' :: b)
      = mergeSections (profile.segment a) (profile.segment b) := by
  rw [mergeSections, segment_eq_blocks, segment_eq_blocks, segment_eq_blocks, unnumber_number,
    unnumber_number, sourceLines_append a hb, pieces_append ha, blocks_append]

/-- A text that names an interpreter, with a docblock about a function
and code. -/
def scriptText : Text :=
  "#!/usr/bin/env php\n/**\n * @param int x one\n */\nfunction f(x) {}\n// rest"

/-- A text that continues the documentation that the first ends with, and
opens a docblock of its own. -/
def continuingText : Text :=
  " * @param int y\n$y = 1;\n/** last\n * @return int"

/-- A language with `//` comments. -/
def slashLanguage : Profile :=
  ⟨"php", ["//"], by decide, by decide, by decide⟩

theorem segment_append_scriptText :
    Sealed slashLanguage (sourceLines scriptText) ∧
    Text.begins "#!" continuingText = false ∧
    slashLanguage.segment (scriptText ++ '\n' :: continuingText)
      = [⟨0, "**\x60 f\x60**\n\n Takes \x60int x\x60 one\n.", "function f(x) {}\n"⟩,
        ⟨1, " rest\n @param int y\n", "$y = 1;\n"⟩,
        ⟨2, " last\nReturns \x60int\x60\n", []⟩] := by
  have hsealed : Sealed slashLanguage (sourceLines scriptText) := by
    refine ⟨by decide +kernel, ?_⟩
    intro i hi
    have hlast : lastOpening? slashLanguage (sourceLines scriptText) = some 0 := by
      decide +kernel
    rw [hlast, Option.mem_some_iff] at hi
    subst hi
    exact ⟨"function f(x) {}", by decide +kernel, by decide +kernel⟩
  have hbegins : Text.begins "#!" continuingText = false := by decide +kernel
  refine ⟨hsealed, hbegins, ?_⟩
  rw [segment_append slashLanguage scriptText continuingText hsealed hbegins]
  decide +kernel

end Marginalia.Segment
