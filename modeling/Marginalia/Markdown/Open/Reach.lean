import Marginalia.Markdown.Cursor
import Marginalia.Markdown.Open.Basic

/-!
# `Marginalia.Markdown.Open.Reach`: how far a line continues blocks

A line continues as many of the open blocks as its beginning allows, from
the outermost on.
-/

set_option autoImplicit false

namespace Marginalia.Markdown

/-- What a line does with an open block: it goes on behind the block's
mark, it does not continue the block, or it ends the code in it. -/
inductive Step
  | goesOn (cursor : Cursor)
  | leaves
  | endsCode

/-- What a line does with an open block. -/
def Open.step (o : Open) (hasMore : Bool) (c : Cursor) : Step :=
  let keep (b : Bool) (c : Cursor) : Step := if b then .goesOn c else .leaves
  match o.kind with
  | .quote =>
    keep (c.indent ≤ 3 && c.content.head? = some '>') ((c.toContent.skip 1).skipSpaces 1)
  | .item width _ =>
    if width ≤ c.indent then .goesOn (c.skipColumns width)
    else keep (c.blank && (hasMore || !o.closed.isEmpty)) c.toContent
  | .heading .. => .leaves
  | .paragraph _ => keep (!c.blank) c
  | .fenced fence offset _ =>
    if c.indent ≤ 3 && fence.closedBy c.content then .endsCode
    else .goesOn (c.skipSpaces offset)
  | .indented _ =>
    if 4 ≤ c.indent then .goesOn (c.skipColumns 4) else keep c.blank c.toContent
  | .raw kind _ => keep (!(kind.endsAtBlank && c.blank)) c
  | .document => .goesOn c
  | .list .. => .goesOn c
  | .rule => .goesOn c

/-- How far a line continues the open blocks: those that it continues,
innermost first, the others, outermost first, its place behind their
marks, and whether it ended code. -/
structure Reach where
  continued : List Open
  others : List Open
  cursor : Cursor
  endsCode : Bool

/-- Goes through the open blocks `inner`, outermost first, as long as the
line continues them. -/
def reach (continued : List Open) (c : Cursor) : (inner : List Open) → Reach
  | [] => ⟨continued, [], c, false⟩
  | o :: inner =>
    match o.step (!inner.isEmpty) c with
    | .goesOn c => reach (o :: continued) c inner
    | .leaves => ⟨continued, o :: inner, c, false⟩
    | .endsCode => ⟨continued, o :: inner, c, true⟩

end Marginalia.Markdown
