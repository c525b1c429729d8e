import Marginalia.Markdown.Marker

/-!
# `Marginalia.Markdown.Block`: the blocks of a document

A document is a list of blocks; quotes and list items hold blocks again.
Paragraphs and headings hold content, which is plain text while the
blocks are being found and inline markup afterwards.
-/

set_option autoImplicit false

namespace Marginalia.Markdown

/-- A block whose paragraphs and headings hold an `α`. -/
inductive Block (α : Type)
  | paragraph (content : α)
  | heading (level : Nat) (content : α)
  | rule
  | code (info literal : Text)
  | raw (literal : Text)
  | quote (blocks : List (Block α))
  | list (shape : ListShape) (number : Nat) (tight : Bool) (items : List (List (Block α)))

end Marginalia.Markdown
