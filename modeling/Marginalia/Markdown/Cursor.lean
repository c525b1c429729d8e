import Marginalia.Markdown.Chars

/-!
# `Marginalia.Markdown.Cursor`: a place in a line

Indentation is counted in columns, and a tab reaches to the next column
that is a multiple of four. A block may take only some of the columns of
a tab; the rest of them then stand for as many spaces.
-/

set_option autoImplicit false

namespace Marginalia.Markdown

/-- A place in a line: what follows it, its column, and whether it lies
within the tab that follows. -/
structure Cursor where
  rest : Text
  column : Nat
  withinTab : Bool

namespace Cursor

/-- The beginning of a line. -/
def start (line : Text) : Cursor := ⟨line, 0, false⟩

/-- The number of columns up to the next tab stop. -/
def toTabStop (column : Nat) : Nat :=
  4 - column % 4

/-- The column behind the spaces and tabs that begin a text. -/
def columnAfter (column : Nat) : Text → Nat
  | ' ' :: rest => columnAfter (column + 1) rest
  | '\t' :: rest => columnAfter (column + toTabStop column) rest
  | _ => column

/-- The number of columns of spaces and tabs. -/
def indent (c : Cursor) : Nat :=
  columnAfter c.column c.rest - c.column

/-- What follows the spaces and tabs. -/
def content (c : Cursor) : Text :=
  Markdown.skipSpaces c.rest

/-- Whether nothing but spaces and tabs follows. -/
def blank (c : Cursor) : Bool :=
  c.content = []

/-- The place behind the spaces and tabs. -/
def toContent (c : Cursor) : Cursor :=
  ⟨c.content, columnAfter c.column c.rest, false⟩

/-- The place `n` characters further on, none of which is a tab. -/
def skip (n : Nat) (c : Cursor) : Cursor :=
  if n = 0 then c else ⟨c.rest.drop n, c.column + n, false⟩

/-- The place `n` columns further on. -/
def skipColumns : (n : Nat) → Cursor → Cursor
  | 0, c => c
  | n + 1, c =>
    match c.rest with
    | [] => c
    | '\t' :: rest =>
      if toTabStop c.column = 1 then skipColumns n ⟨rest, c.column + 1, false⟩
      else skipColumns n ⟨c.rest, c.column + 1, true⟩
    | _ :: rest => skipColumns n ⟨rest, c.column + 1, false⟩

/-- Whether a space or a tab follows. -/
def beforeSpace (c : Cursor) : Bool :=
  c.rest.head?.any isSpaceOrTab

/-- The place at most `n` columns further on, over spaces and tabs. -/
def skipSpaces : (n : Nat) → Cursor → Cursor
  | 0, c => c
  | n + 1, c => if c.beforeSpace then skipSpaces n (c.skipColumns 1) else c

/-- The end of the line. -/
def toEnd (c : Cursor) : Cursor :=
  ⟨[], c.column, false⟩

/-- What follows, where the columns left of a tab are spaces. -/
def text (c : Cursor) : Text :=
  if c.withinTab then List.replicate (toTabStop c.column) ' ' ++ c.rest.drop 1 else c.rest

end Cursor

end Marginalia.Markdown
