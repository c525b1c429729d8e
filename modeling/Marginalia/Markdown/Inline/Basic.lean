import Marginalia.Text.Basic

/-!
# `Marginalia.Markdown.Inline.Basic`: markup within a paragraph
-/

set_option autoImplicit false

namespace Marginalia.Markdown

/-- A piece of the content of a paragraph or heading. -/
inductive Inline
  | text (text : Text)
  | code (text : Text)
  | raw (markup : Text)
  | softBreak
  | lineBreak
  | emphasis (content : List Inline)
  | strong (content : List Inline)
  | link (destination title : Text) (content : List Inline)
  | image (destination title : Text) (content : List Inline)

end Marginalia.Markdown
