import Marginalia.Proofs.Segment.Pieces
import Mathlib.Data.List.Basic

/-!
# `Marginalia.Proofs.Segment.Contribution`: what a line contributes

The pass carries a state from line to line: whether it is inside a
docblock, and the kind of the tag right before. This file says what a
line contributes without any state, from the lines of the file alone:

* `Inside`: a line is inside a docblock when an earlier one opens one and
  none between the two closes it.
* `previousKind`: the kind of the tag that the nearest documentation line
  before it reads as.
* `contribution`: the text, from these two and from what stands on the
  line and behind it.

`pieces_eq` states that the pass computes exactly this. The state that it
has reached at line `i` is `stateAt i`. `contribute_stateAt` is the step,
`piecesFrom_stateAt` the run. The step needs one invariant of the
history, `previousKind_of_not_inside`: the pass does not touch the kind
outside a docblock, and there it is never set.
-/

set_option autoImplicit false

namespace Marginalia.Segment

open Marginalia.Language (Profile)

section
variable (profile : Profile) (lines : List Text)

/-- Whether a line is documentation. -/
def isDoc (line : Text) : Bool :=
  (classify? profile line).isSome

/-- How line `i` of a file is documentation, with its text after the
beginning that says so. -/
def docAt? (i : Nat) : Option (DocLine × Text) :=
  lines[i]?.bind (classify? profile)

/-- Line `i` opens a docblock. -/
def OpensAt (i : Nat) : Prop :=
  (docAt? profile lines i).any (·.1 = .opening) = true

/-- Line `i` closes a docblock: it continues one and holds nothing but a
slash. -/
def ClosesAt (i : Nat) : Prop :=
  (docAt? profile lines i).any (fun doc => doc.1 = .continuation && Text.trimEnd doc.2 = "/") = true

/-- Line `i` is inside a docblock: an earlier line opens one, and no line
strictly between closes it. -/
def Inside (i : Nat) : Prop :=
  ∃ j < i, OpensAt profile lines j ∧ ∀ k < i, j < k → ¬ClosesAt profile lines k

instance (i : Nat) : Decidable (OpensAt profile lines i) :=
  inferInstanceAs (Decidable (_ = true))

instance (i : Nat) : Decidable (ClosesAt profile lines i) :=
  inferInstanceAs (Decidable (_ = true))

instance (i : Nat) : Decidable (Inside profile lines i) :=
  inferInstanceAs (Decidable (∃ j < i, _ ∧ _))

/-- The tag that line `i` reads as. Only a line inside a docblock that
does not close it is read as one. -/
def tagAt? (i : Nat) : Option Tag :=
  if Inside profile lines i ∧ ¬ClosesAt profile lines i then
    (docAt? profile lines i).bind fun (_, rest) => Tag.ofText? rest
  else none

/-- The nearest documentation line before line `i`. -/
def previousDoc? (i : Nat) : Option Nat :=
  (List.range i).reverse.find? fun j => (docAt? profile lines j).isSome

/-- The kind of the tag that the nearest documentation line before line
`i` reads as, if it reads as one. -/
def previousKind (i : Nat) : Option TagKind :=
  (previousDoc? profile lines i).bind fun j => (tagAt? profile lines j).map Tag.kind

/-- The function that line `i` opens a docblock about. -/
def documentedAt? (i : Nat) : Option Text :=
  if OpensAt profile lines i then documented? profile (lines.drop (i + 1)) else none

/-- How a sentence about a tag goes on or begins, by the kind of the tag
before it. -/
def leadText : (previous : Option TagKind) → TagKind → Text
  | some .param, .param => " and "
  | some .return, .return => " and "
  | some .return, .param => ". Takes "
  | some .param, .return => ". Returns "
  | none, .param => "Takes "
  | none, .return => "Returns "

/-- What line `i` contributes to the documentation of its section: a full
stop when it closes a docblock, the name of a function in bold when it
opens one about it, a piece of a sentence when it reads as a tag, and else
its own text. Code contributes nothing. -/
def contribution (i : Nat) : Text :=
  match docAt? profile lines i with
  | none => []
  | some (_, rest) =>
    if ClosesAt profile lines i then "."
    else match documentedAt? profile lines i with
      | some name => "**\x60 " ++ name ++ "\x60**\n\n "
      | none => match tagAt? profile lines i with
        | some tag => leadText (previousKind profile lines i) tag.kind ++ tag.render ++ ['\n']
        | none => rest ++ ['\n']

/-- The text of a documentation line that does not close a docblock, as
the pass reads it. -/
def textAt (i : Nat) (rest : Text) : Text :=
  match tagAt? profile lines i with
  | some tag => Tag.lead (previousKind profile lines i) tag.kind ++ tag.render
  | none => rest

/-- The piece that a line with its number comes to. -/
def pieceAt : (numbered : Text × Nat) → Piece
  | (line, i) => if isDoc profile line then .docs (contribution profile lines i) else .code line

/-- The state of the pass at line `i`. -/
def stateAt (i : Nat) : Docblock :=
  ⟨decide (Inside profile lines i), previousKind profile lines i⟩

end

variable {profile : Profile} {lines : List Text} {i : Nat} {kind : DocLine} {rest : Text}

/-! ### The history, one line on -/

theorem not_inside_zero : ¬Inside profile lines 0 := by
  rintro ⟨j, hj, -⟩
  omega

/-- The next line is inside a docblock when this one opens it, or when
this one is inside and does not close it. -/
theorem inside_succ : Inside profile lines (i + 1)
    ↔ OpensAt profile lines i ∨ (Inside profile lines i ∧ ¬ClosesAt profile lines i) := by
  constructor
  · rintro ⟨j, hj, hopens, hkeeps⟩
    by_cases hji : j = i
    · subst hji
      exact Or.inl hopens
    · refine Or.inr ⟨⟨j, by omega, hopens, fun k hk hjk => hkeeps k (by omega) hjk⟩, ?_⟩
      exact hkeeps i (by omega) (by omega)
  · rintro (hopens | ⟨⟨j, hj, hopens, hkeeps⟩, hi⟩)
    · exact ⟨i, by omega, hopens, fun k hk hik => by omega⟩
    · refine ⟨j, by omega, hopens, fun k hk hjk => ?_⟩
      by_cases hki : k = i
      · subst hki
        exact hi
      · exact hkeeps k (by omega) hjk

/-- One line on, the nearest documentation line is the last one, or what
it was. -/
theorem previousDoc?_succ (profile : Profile) (lines : List Text) (i : Nat) :
    previousDoc? profile lines (i + 1)
      = if (docAt? profile lines i).isSome then some i else previousDoc? profile lines i := by
  rw [previousDoc?, List.range_succ, List.reverse_append, List.reverse_singleton,
    List.singleton_append, List.find?_cons, previousDoc?]
  cases (docAt? profile lines i).isSome <;> rfl

/-- Behind a documentation line, the previous tag is its own. -/
theorem previousKind_succ_of_doc (h : docAt? profile lines i = some (kind, rest)) :
    previousKind profile lines (i + 1) = (tagAt? profile lines i).map Tag.kind := by
  rw [previousKind, previousDoc?_succ, h, Option.isSome_some, if_pos rfl, Option.bind_some]

/-- Code does not come between a documentation line and the one before
it. -/
theorem previousKind_succ_of_code (h : docAt? profile lines i = none) :
    previousKind profile lines (i + 1) = previousKind profile lines i := by
  rw [previousKind, previousDoc?_succ, h, Option.isSome_none, if_neg Bool.false_ne_true,
    previousKind]

/-- Code neither opens nor closes a docblock. -/
theorem inside_succ_of_code (h : docAt? profile lines i = none) :
    Inside profile lines (i + 1) ↔ Inside profile lines i := by
  simp [inside_succ, OpensAt, ClosesAt, h]

/-- Outside every docblock there is no previous tag: a line that reads as
a tag leaves the next line inside, and code in between changes nothing. -/
theorem previousKind_of_not_inside (h : ¬Inside profile lines i) :
    previousKind profile lines i = none := by
  induction i with
  | zero => rfl
  | succ i ih =>
    cases hdoc : docAt? profile lines i with
    | none =>
      rw [previousKind_succ_of_code hdoc]
      exact ih (fun hi => h ((inside_succ_of_code hdoc).mpr hi))
    | some doc =>
      -- A line that is read as a tag would leave the next one inside.
      have hread : ¬(Inside profile lines i ∧ ¬ClosesAt profile lines i) :=
        fun hi => h (inside_succ.mpr (Or.inr hi))
      rw [previousKind_succ_of_doc hdoc, tagAt?, if_neg hread, Option.map_none]

/-! ### The words of the pass -/

/-- The pass begins a sentence with the words for its tag. -/
theorem lead_eq_leadText (previous : Option TagKind) (kind : TagKind) :
    Tag.lead previous kind = leadText previous kind := by
  cases previous with
  | none => cases kind <;> rfl
  | some earlier => cases earlier <;> cases kind <;> rfl

/-- What a documentation line contributes, with the label and the text as
the pass writes them. -/
theorem contribution_of_doc (h : docAt? profile lines i = some (kind, rest)) :
    contribution profile lines i
      = if ClosesAt profile lines i then ['.']
        else match documentedAt? profile lines i with
          | some name => label name
          | none => textAt profile lines i rest ++ ['\n'] := by
  simp only [contribution, h, textAt, lead_eq_leadText, label]
  cases tagAt? profile lines i <;> rfl

/-! ### The step -/

theorem opensAt_iff (h : docAt? profile lines i = some (kind, rest)) :
    OpensAt profile lines i ↔ kind = .opening := by
  simp [OpensAt, h]

theorem closesAt_iff (h : docAt? profile lines i = some (kind, rest)) :
    ClosesAt profile lines i ↔ closes kind rest = true := by
  simp [ClosesAt, closes, h]

/-- An opening is no closing. -/
theorem closes_opening (rest : Text) : closes .opening rest = false := by
  simp [closes]

theorem stateAt_zero : stateAt profile lines 0 = .outside := by
  simp [stateAt, Docblock.outside, not_inside_zero, previousKind_of_not_inside]

/-- Code leaves the state alone. -/
theorem stateAt_succ_of_code (h : docAt? profile lines i = none) :
    stateAt profile lines (i + 1) = stateAt profile lines i := by
  rw [stateAt, stateAt, previousKind_succ_of_code h, decide_eq_decide.mpr (inside_succ_of_code h)]

/-- What is read off a line that does not close a docblock. -/
theorem readTag_stateAt (h : docAt? profile lines i = some (kind, rest))
    (hcloses : ¬ClosesAt profile lines i) :
    (stateAt profile lines i).readTag rest
      = (textAt profile lines i rest,
        ⟨decide (Inside profile lines i), (tagAt? profile lines i).map Tag.kind⟩) := by
  by_cases hinside : Inside profile lines i
  · have htag : tagAt? profile lines i = Tag.ofText? rest := by
      rw [tagAt?, if_pos ⟨hinside, hcloses⟩, h, Option.bind_some]
    rw [Docblock.readTag, stateAt, if_pos (decide_eq_true hinside), textAt, htag,
      decide_eq_true hinside]
    cases Tag.ofText? rest <;> rfl
  · -- The state is passed on as it is, and it has no tag in it.
    have htag : tagAt? profile lines i = none := by
      rw [tagAt?, if_neg (fun hread => hinside hread.1)]
    rw [Docblock.readTag, stateAt, if_neg (by simp [hinside]), textAt, htag,
      previousKind_of_not_inside hinside]
    rfl

/-- A closing line is a full stop, and nothing is carried behind it. -/
theorem contribute_stateAt_of_closes (h : docAt? profile lines i = some (kind, rest))
    (hcloses : ClosesAt profile lines i) (following : List Text) :
    contribute profile (stateAt profile lines i) kind rest following
      = (contribution profile lines i, stateAt profile lines (i + 1)) := by
  have hslash := (closesAt_iff h).mp hcloses
  -- An opening is asked for first, and this line is none.
  have hkind : kind ≠ .opening := by
    rintro rfl
    rw [closes_opening] at hslash
    cases hslash
  have hnext : ¬Inside profile lines (i + 1) := by
    rw [inside_succ, opensAt_iff h]
    exact fun hor => hor.elim hkind (fun hkept => hkept.2 hcloses)
  have hstate : stateAt profile lines (i + 1) = .outside := by
    rw [stateAt, decide_eq_false hnext, previousKind_of_not_inside hnext]
    rfl
  have htext : contribution profile lines i = "." := by
    rw [contribution_of_doc h, if_pos hcloses]
    rfl
  rw [hstate, htext]
  show (if kind = .opening then _ else if closes kind rest = true then _ else _) = _
  rw [if_neg hkind, if_pos hslash]

/-- An opening is a label when a function is found, and what is read off
it before that is dropped; the docblock begins behind it. -/
theorem contribute_stateAt_of_opening (h : docAt? profile lines i = some (.opening, rest)) :
    contribute profile (stateAt profile lines i) .opening rest (lines.drop (i + 1))
      = (contribution profile lines i, stateAt profile lines (i + 1)) := by
  have hopens : OpensAt profile lines i := (opensAt_iff h).mpr rfl
  have hcloses : ¬ClosesAt profile lines i := by
    rw [closesAt_iff h, closes_opening]
    decide
  have hnext : Inside profile lines (i + 1) := inside_succ.mpr (Or.inl hopens)
  have hstate : stateAt profile lines (i + 1)
      = ⟨true, (tagAt? profile lines i).map Tag.kind⟩ := by
    rw [stateAt, decide_eq_true hnext, previousKind_succ_of_doc h]
  rw [hstate, contribution_of_doc h, contribute, readTag_stateAt h hcloses]
  simp only [if_pos, if_neg hcloses, documentedAt?, if_pos hopens]
  -- The label hides the text, but the kind of a tag in it is still carried on.
  cases documented? profile (lines.drop (i + 1)) with
  | some name => rfl
  | none => rfl

/-- Any other line contributes what is read off it, and the next line is
inside a docblock as this one is. -/
theorem contribute_stateAt_of_neither (h : docAt? profile lines i = some (kind, rest))
    (hkind : kind ≠ .opening) (hcloses : ¬ClosesAt profile lines i) (following : List Text) :
    contribute profile (stateAt profile lines i) kind rest following
      = (contribution profile lines i, stateAt profile lines (i + 1)) := by
  have hopens : ¬OpensAt profile lines i := fun hopens => hkind ((opensAt_iff h).mp hopens)
  have hnext : Inside profile lines (i + 1) ↔ Inside profile lines i := by
    simp [inside_succ, hopens, hcloses]
  have hstate : stateAt profile lines (i + 1)
      = ⟨decide (Inside profile lines i), (tagAt? profile lines i).map Tag.kind⟩ := by
    rw [stateAt, decide_eq_decide.mpr hnext, previousKind_succ_of_doc h]
  have hslash : ¬closes kind rest = true := fun hslash => hcloses ((closesAt_iff h).mpr hslash)
  rw [hstate, contribution_of_doc h, contribute, readTag_stateAt h hcloses]
  simp only [if_neg hkind, if_neg hslash, if_neg hcloses, documentedAt?, if_neg hopens]

/-- The step of the pass: from the state at line `i` a
documentation line contributes its contribution, and the state at line
`i + 1` is reached. -/
theorem contribute_stateAt (h : docAt? profile lines i = some (kind, rest)) :
    contribute profile (stateAt profile lines i) kind rest (lines.drop (i + 1))
      = (contribution profile lines i, stateAt profile lines (i + 1)) := by
  by_cases hkind : kind = .opening
  · subst hkind
    exact contribute_stateAt_of_opening h
  · by_cases hcloses : ClosesAt profile lines i
    · exact contribute_stateAt_of_closes h hcloses _
    · exact contribute_stateAt_of_neither h hkind hcloses _

/-! ### The run -/

/-- The lines in front of line `i` do not matter to how it is
documentation. -/
theorem docAt?_append (profile : Profile) (front : List Text) (line : Text) (back : List Text) :
    docAt? profile (front ++ line :: back) front.length = classify? profile line := by
  simp [docAt?]

/-- The run of the pass. From the state at its first line, the rest of a
file comes to the pieces of its lines. The induction is on the rest, and
`front` collects the lines that have been walked over. -/
theorem piecesFrom_stateAt (profile : Profile) (front back : List Text) :
    piecesFrom profile (stateAt profile (front ++ back) front.length) back
      = (back.zipIdx front.length).map (pieceAt profile (front ++ back)) := by
  induction back generalizing front with
  | nil => rfl
  | cons line back ih =>
    have hdoc := docAt?_append profile front line back
    -- For what is left, this line is one of those in front.
    have happend : front ++ line :: back = (front ++ [line]) ++ back := by simp
    have hlength : front.length + 1 = (front ++ [line]).length := by simp
    have hrest : (front ++ line :: back).drop (front.length + 1) = back := by
      rw [happend, hlength, List.drop_left]
    rw [List.zipIdx_cons, List.map_cons, piecesFrom]
    cases hclass : classify? profile line with
    | none =>
      have hpiece : pieceAt profile (front ++ line :: back) (line, front.length)
          = .code line := by
        simp [pieceAt, isDoc, hclass]
      rw [hpiece, ← stateAt_succ_of_code (hdoc.trans hclass), happend, hlength]
      exact congrArg _ (ih _)
    | some doc =>
      obtain ⟨kind, rest⟩ := doc
      have hpiece : pieceAt profile (front ++ line :: back) (line, front.length)
          = .docs (contribution profile (front ++ line :: back) front.length) := by
        simp [pieceAt, isDoc, hclass]
      have hstep := contribute_stateAt (hdoc.trans hclass)
      rw [hrest] at hstep
      simp only [hstep]
      rw [hpiece, happend, hlength]
      exact congrArg _ (ih _)

/-- **The pieces of a file, without the state.** Every documentation line
comes to its contribution, and code stays as it is. -/
theorem pieces_eq (profile : Profile) (lines : List Text) :
    pieces profile lines = lines.zipIdx.map (pieceAt profile lines) := by
  have hrun := piecesFrom_stateAt profile [] lines
  rw [List.nil_append, List.length_nil, stateAt_zero] at hrun
  rw [pieces, hrun]

/-! ### Lines without a label, and lines with one -/

/-- A line that closes nothing and has no label contributes what is read
off it. -/
theorem contribution_of_unlabelled (h : docAt? profile lines i = some (kind, rest))
    (hcloses : ¬ClosesAt profile lines i) (hshown : documentedAt? profile lines i = none) :
    contribution profile lines i = textAt profile lines i rest ++ ['\n'] := by
  rw [contribution_of_doc h, if_neg hcloses, hshown]

/-- A label stands in the place of all that an opening says. -/
theorem contribution_of_documentedAt? {name : Text}
    (h : docAt? profile lines i = some (kind, rest))
    (hlabel : documentedAt? profile lines i = some name) :
    contribution profile lines i = label name := by
  have hopens : OpensAt profile lines i := by
    by_contra hnot
    rw [documentedAt?, if_neg hnot] at hlabel
    cases hlabel
  have hcloses : ¬ClosesAt profile lines i := by
    rw [closesAt_iff h, (opensAt_iff h).mp hopens, closes_opening]
    decide
  rw [contribution_of_doc h, if_neg hcloses, hlabel]

/-- Every documentation line contributes something. -/
theorem contribution_ne_nil (h : docAt? profile lines i = some (kind, rest)) :
    contribution profile lines i ≠ [] := by
  have hstep : (contribute profile (stateAt profile lines i) kind rest (lines.drop (i + 1))).1
      = contribution profile lines i := congrArg Prod.fst (contribute_stateAt h)
  rw [← hstep]
  exact contribute_ne_nil _ _ _ _ _

end Marginalia.Segment
