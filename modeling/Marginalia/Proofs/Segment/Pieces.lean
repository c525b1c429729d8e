import Marginalia.Segment.Basic

/-!
# `Marginalia.Proofs.Segment.Pieces`: the pass in two steps

`Profile.segment` decides about a line and puts it where it belongs in one
go. For proofs the two are taken apart. `pieces` turns the lines into
pieces, each a line of code or what a line of documentation contributes.
`blocks` groups the pieces from the back, with no buffer and no flag: code
in front of documentation is a block of its own.

`segment_eq_blocks` says that the pass does the same. The step is
`joinBlocks_addCode` for a line of code and `joinBlocks_addDocs` for
documentation. They rest on two facts that `Accumulator.Sound` and
`ne_nil_of_mem_pieces` name: the flag is set exactly when there is code,
and no line of documentation contributes nothing.
-/

set_option autoImplicit false

namespace Marginalia.Segment

open Marginalia.Language (Profile)

/-- What a line comes to: documentation text, or a line of code. -/
inductive Piece
  | docs (text : Text)
  | code (line : Text)
deriving DecidableEq

/-- The pieces of the lines behind a state. -/
def piecesFrom (profile : Profile) : Docblock → (lines : List Text) → List Piece
  | _, [] => []
  | state, line :: following =>
    match classify? profile line with
    | none => .code line :: piecesFrom profile state following
    | some (kind, rest) =>
      let (text, next) := contribute profile state kind rest following
      .docs text :: piecesFrom profile next following

/-- The pieces of a file's lines, in order. -/
def pieces (profile : Profile) (lines : List Text) : List Piece :=
  piecesFrom profile .outside lines

/-- A stretch of documentation and the code after it, without a number. -/
structure Block where
  docs : Text
  code : Text
deriving DecidableEq

/-- Puts a piece in front of the blocks that follow it. Code in front of
documentation makes a block of its own. -/
def consPiece : Piece → List Block → List Block
  | .docs text, [] => [⟨text, []⟩]
  | .docs text, block :: blocks => ⟨text ++ block.docs, block.code⟩ :: blocks
  | .code line, [] => [⟨[], line ++ ['\n']⟩]
  | .code line, block :: blocks =>
    if block.docs = [] then ⟨[], line ++ '\n' :: block.code⟩ :: blocks
    else ⟨[], line ++ ['\n']⟩ :: block :: blocks

/-- The blocks that the pieces form; always at least one. -/
def blocks (pieces : List Piece) : List Block :=
  pieces.foldr consPiece [⟨[], []⟩]

/-- The blocks of two lists of pieces in a row. Code in front of
documentation keeps the last block of the first apart from the first of
the second. Otherwise these two are one. -/
def joinBlocks : (front back : List Block) → List Block
  | [], back => back
  | [last], [] => [last]
  | [last], first :: back =>
    if last.code ≠ [] ∧ first.docs ≠ [] then last :: first :: back
    else ⟨last.docs ++ first.docs, last.code ++ first.code⟩ :: back
  | block :: next :: front, back => block :: joinBlocks (next :: front) back

/-- Gives blocks their numbers, the first of them `n`. -/
def numberFrom (n : Nat) (blocks : List Block) : List Section :=
  (blocks.zipIdx n).map fun (block, index) => ⟨index, block.docs, block.code⟩

/-- Gives blocks their numbers. -/
def number (blocks : List Block) : List Section :=
  numberFrom 0 blocks

variable {profile : Profile} {lines : List Text} {text line : Text}

theorem numberFrom_cons (n : Nat) (block : Block) (blocks : List Block) :
    numberFrom n (block :: blocks) = ⟨n, block.docs, block.code⟩ :: numberFrom (n + 1) blocks :=
  rfl

/-- Pieces always form a block. -/
theorem exists_blocks_eq_cons (pieces : List Piece) :
    ∃ block rest, blocks pieces = block :: rest := by
  induction pieces with
  | nil => exact ⟨_, _, rfl⟩
  | cons piece pieces ih =>
    obtain ⟨block, rest, hblocks⟩ := ih
    rw [blocks, List.foldr_cons, ← blocks, hblocks]
    cases piece with
    | docs text => exact ⟨_, _, rfl⟩
    | code line =>
      rw [consPiece]
      split
      · exact ⟨_, _, rfl⟩
      · exact ⟨_, _, rfl⟩

/-! ### No contribution is empty -/

theorem label_ne_nil (name : Text) : label name ≠ [] :=
  List.append_ne_nil_of_right_ne_nil _ (by decide)

theorem contribute_ne_nil (profile : Profile) (state : Docblock) (kind : DocLine) (rest : Text)
    (following : List Text) : (contribute profile state kind rest following).1 ≠ [] := by
  simp only [contribute]
  split
  · split
    · exact label_ne_nil _
    · exact List.append_ne_nil_of_right_ne_nil _ (by decide)
  · split
    · decide
    · exact List.append_ne_nil_of_right_ne_nil _ (by decide)

/-- Every piece of documentation has some text. -/
theorem ne_nil_of_mem_piecesFrom {state : Docblock}
    (h : .docs text ∈ piecesFrom profile state lines) : text ≠ [] := by
  induction lines generalizing state with
  | nil => cases h
  | cons line lines ih =>
    rw [piecesFrom] at h
    cases hclass : classify? profile line with
    | none =>
      rw [hclass] at h
      rcases List.mem_cons.mp h with hhere | hlater
      · cases hhere
      · exact ih hlater
    | some doc =>
      rw [hclass] at h
      rcases List.mem_cons.mp h with hhere | hlater
      · cases hhere
        exact contribute_ne_nil _ _ _ _ _
      · exact ih hlater

/-! ### The step -/

namespace Accumulator

/-- The block that is being filled. -/
def block (acc : Accumulator) : Block :=
  ⟨acc.docs, acc.code⟩

/-- The flag is set exactly when there is code. -/
def Sound (acc : Accumulator) : Prop :=
  acc.hasCode = true ↔ acc.code ≠ []

/-- Adds a piece. -/
def add (acc : Accumulator) : Piece → Accumulator
  | .docs text => acc.addDocs text
  | .code line => acc.addCode line

theorem sound_empty : empty.Sound := by
  simp [Sound, empty]

theorem sound_addCode (acc : Accumulator) (line : Text) : (acc.addCode line).Sound := by
  simp [Sound, addCode]

theorem sound_addDocs {acc : Accumulator} (h : acc.Sound) (text : Text) :
    (acc.addDocs text).Sound := by
  rw [Sound, addDocs, turn]
  split
  · simp [flush]
  · exact h

/-- What the accumulator will have come to once `blocks` follow: the
sections that are finished, and then the block being filled with what
joins it. -/
def completed (acc : Accumulator) (blocks : List Block) : List Section :=
  acc.sections ++ numberFrom acc.sections.length (joinBlocks [acc.block] blocks)

/-- With nothing to come, only the last section has to be finished. -/
theorem completed_nil (acc : Accumulator) : acc.completed [⟨[], []⟩] = acc.flush.sections := by
  simp [completed, joinBlocks, flush, numberFrom, block]

/-- A line of code can be added, or be put in front of the blocks that
follow. -/
theorem completed_addCode (acc : Accumulator) (line : Text) (first : Block) (rest : List Block) :
    (acc.addCode line).completed (first :: rest)
      = acc.completed (consPiece (.code line) (first :: rest)) := by
  by_cases hdocs : first.docs = []
  · simp [completed, joinBlocks, consPiece, addCode, block, hdocs]
  · simp [completed, joinBlocks, consPiece, addCode, block, hdocs]

/-- So can documentation that is not empty. -/
theorem completed_addDocs {acc : Accumulator} (h : acc.Sound) (htext : text ≠ []) (first : Block)
    (rest : List Block) :
    (acc.addDocs text).completed (first :: rest)
      = acc.completed (consPiece (.docs text) (first :: rest)) := by
  have hdocs : text ++ first.docs ≠ [] := List.append_ne_nil_of_left_ne_nil htext _
  by_cases hcode : acc.code = []
  · -- The documentation joins the section being filled.
    have hflag : acc.hasCode = false := Bool.eq_false_iff.mpr fun hset => h.mp hset hcode
    simp [completed, joinBlocks, consPiece, addDocs, turn, block, hcode, hflag]
  · -- A new section begins, and in the blocks the seam is at the same place.
    have hflag : acc.hasCode = true := h.mpr hcode
    simp [completed, joinBlocks, consPiece, addDocs, turn, block, flush, hcode, hflag, hdocs,
      numberFrom_cons]

end Accumulator

/-! ### The run -/

/-- The pass adds the pieces of the lines, one after the other. -/
theorem walk_eq_foldl (profile : Profile) (acc : Accumulator) (state : Docblock)
    (lines : List Text) :
    walk profile acc state lines = (piecesFrom profile state lines).foldl Accumulator.add acc := by
  induction lines generalizing acc state with
  | nil => rfl
  | cons line lines ih =>
    rw [walk, piecesFrom]
    cases classify? profile line with
    | none => exact ih _ _
    | some doc => exact ih _ _

/-- Adding pieces comes to the blocks that they form. -/
theorem flush_foldl_add {acc : Accumulator} (hacc : acc.Sound) {pieces : List Piece}
    (h : ∀ text, .docs text ∈ pieces → text ≠ []) :
    (pieces.foldl Accumulator.add acc).flush.sections = acc.completed (blocks pieces) := by
  induction pieces generalizing acc with
  | nil => exact (acc.completed_nil).symm
  | cons piece pieces ih =>
    have hpieces : ∀ text, .docs text ∈ pieces → text ≠ [] :=
      fun text htext => h text (List.mem_cons_of_mem piece htext)
    obtain ⟨first, rest, hblocks⟩ := exists_blocks_eq_cons pieces
    rw [List.foldl_cons, blocks, List.foldr_cons, ← blocks, hblocks]
    cases piece with
    | docs text =>
      rw [Accumulator.add, ih (Accumulator.sound_addDocs hacc text) hpieces, hblocks]
      exact Accumulator.completed_addDocs hacc (h text List.mem_cons_self) first rest
    | code line =>
      rw [Accumulator.add, ih (acc.sound_addCode line) hpieces, hblocks]
      exact acc.completed_addCode line first rest

/-- **The pass, in two steps.** The sections of a source file are the
blocks of its pieces, with their numbers. -/
theorem segment_eq_blocks (profile : Profile) (source : Text) :
    profile.segment source = number (blocks (pieces profile (sourceLines source))) := by
  obtain ⟨first, rest, hblocks⟩ :=
    exists_blocks_eq_cons (pieces profile (sourceLines source))
  rw [Profile.segment, walk_eq_foldl,
    flush_foldl_add Accumulator.sound_empty (fun _ => ne_nil_of_mem_piecesFrom), ← pieces,
    hblocks]
  simp [Accumulator.completed, Accumulator.block, Accumulator.empty, joinBlocks, number]

end Marginalia.Segment
