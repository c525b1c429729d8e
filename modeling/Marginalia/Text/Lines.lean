import Marginalia.Text.Basic

/-!
# `Marginalia.Text.Lines`: lines of a text

A text is cut at every line feed, so a text with `n` line feeds has
`n + 1` lines, the last of them empty when the text ends in one. Joining
the lines again gives the text back (`joinWith_splitOn`).
-/

set_option autoImplicit false

namespace Marginalia.Text

/-- The parts of a text, with one more character in front. -/
def consCut (mark c : Char) (parts : List Text) : List Text :=
  if c = mark then [] :: parts
  else match parts with
    | [] => [[c]]
    | part :: rest => (c :: part) :: rest

/-- The parts of a text between its marks. -/
def splitOn (mark : Char) (text : Text) : List Text :=
  text.foldr (consCut mark) [[]]

/-- The lines of a text, cut at every line feed. -/
def lines (text : Text) : List Text :=
  splitOn '\n' text

/-- The parts in order with `between` between each two of them. -/
def joinWith (between : Text) : List Text → Text
  | [] => []
  | first :: rest => first ++ rest.flatMap (between ++ ·)

/-- The lines, each followed by a line feed. -/
def unlines (parts : List Text) : Text :=
  parts.flatMap (· ++ ['\n'])

theorem splitOn_cons (mark c : Char) (text : Text) :
    splitOn mark (c :: text) = consCut mark c (splitOn mark text) :=
  rfl

theorem splitOn_ne_nil (mark : Char) (text : Text) : splitOn mark text ≠ [] := by
  cases text with
  | nil => simp [splitOn]
  | cons c text =>
    rw [splitOn_cons]
    unfold consCut
    split
    · simp
    · split <;> simp

theorem joinWith_splitOn (mark : Char) (text : Text) :
    joinWith [mark] (splitOn mark text) = text := by
  induction text with
  | nil => rfl
  | cons c text ih =>
    have hne := splitOn_ne_nil mark text
    rw [splitOn_cons]
    revert ih hne
    cases splitOn mark text with
    | nil => simp
    | cons part rest =>
      intro ih _
      by_cases h : c = mark
      · subst h
        simpa [consCut, joinWith] using ih
      · simpa [consCut, joinWith, h] using ih

end Marginalia.Text
