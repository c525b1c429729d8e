import Marginalia.Markdown.Block
import Marginalia.Markdown.Marker

/-!
# `Marginalia.Markdown.Open.Basic`: blocks that are open

While a document is read, some blocks are open, each within the one
before it. An open block keeps the blocks in it that are closed, last
first, and its own text in reverse.
-/

set_option autoImplicit false

namespace Marginalia.Markdown

/-- A block that is closed, with what lists need to know about blank
lines: whether one follows the last line in it, and, for an item, whether
one stands between two of its blocks. -/
structure Closed where
  body : Block Text ⊕ List (Block Text)
  trailing : Bool
  gap : Bool

/-- A kind of open block. Texts are collected in reverse. -/
inductive OpenKind
  | document
  | quote
  | list (shape : ListShape) (number : Nat)
  | item (width line : Nat)
  | paragraph (text : Text)
  | heading (level : Nat) (text : Text)
  | rule
  | fenced (fence : Fence) (offset : Nat) (text : Text)
  | indented (text : Text)
  | raw (kind : RawKind) (text : Text)

/-- An open block: its kind, the closed blocks in it, last first, and
whether its last line was blank. -/
structure Open where
  kind : OpenKind
  closed : List Closed
  trailing : Bool

namespace OpenKind

/-- Whether blocks other than items may stand in a block. -/
def holdsBlocks : OpenKind → Bool
  | .document => true
  | .quote => true
  | .item .. => true
  | _ => false

/-- Whether items may stand in a block. -/
def holdsItems : OpenKind → Bool
  | .list .. => true
  | _ => false

/-- Whether a block is an item. -/
def isItem : OpenKind → Bool
  | .item .. => true
  | _ => false

/-- Whether a block is a paragraph. -/
def isParagraph : OpenKind → Bool
  | .paragraph _ => true
  | _ => false

/-- Whether `child` may stand in a block. -/
def holds (kind child : OpenKind) : Bool :=
  if child.isItem then kind.holdsItems else kind.holdsBlocks

/-- Whether the lines of a block are text, so that no block opens in it. -/
def takesText : OpenKind → Bool
  | .paragraph _ => true
  | .heading .. => true
  | .fenced .. => true
  | .indented _ => true
  | .raw .. => true
  | _ => false

/-- Whether the lines of a block are taken as they are. -/
def isVerbatim : OpenKind → Bool
  | .fenced .. => true
  | .indented _ => true
  | .raw .. => true
  | _ => false

/-- A block with one more line of text. -/
def addLine (line : Text) : OpenKind → OpenKind
  | .paragraph text => .paragraph ('\n' :: line.reverseAux text)
  | .heading level text => .heading level ('\n' :: line.reverseAux text)
  | .fenced fence offset text => .fenced fence offset ('\n' :: line.reverseAux text)
  | .indented text => .indented ('\n' :: line.reverseAux text)
  | .raw kind text => .raw kind ('\n' :: line.reverseAux text)
  | kind => kind

end OpenKind

end Marginalia.Markdown
