import Marginalia.Markdown.Block
import Marginalia.Markdown.Inline.Basic
import Marginalia.Text.Escape
import Marginalia.Text.Utf8

/-!
# `Marginalia.Markdown.Html`: a document as HTML

The output is written from left to right, and a block begins on a line of
its own. Paragraphs of a tight list are written without tags of their
own. Raw markup is passed through.
-/

set_option autoImplicit false

namespace Marginalia.Markdown

/-- What was written so far, in reverse. -/
abbrev Written := Text

namespace Written

/-- Writes a text. -/
def put (out : Written) (text : Text) : Written :=
  text.reverseAux out

/-- Ends the line that is being written, if there is one. -/
def freshLine (out : Written) : Written :=
  match out with
  | [] => out
  | '\n' :: _ => out
  | _ => '\n' :: out

end Written

/-! ### Inline markup -/

/-- Whether a character stands for itself in a destination. -/
def isPlainInDestination (c : Char) : Bool :=
  c.isAlphanum || "-_.+!*(),%#@?=;:/$~".toList.contains c

/-- A hexadecimal digit in upper case. -/
def upperHexDigit (n : Nat) : Char :=
  (Nat.digitChar n).toUpper

/-- The written form of a character in a destination. -/
def destinationChar (c : Char) : Text :=
  if isPlainInDestination c then [c]
  else if c = '&' then "&amp;"
  else if c = '\'' then "&#x27;"
  else (Utf8.encodeChar c).flatMap fun b =>
    ['%', upperHexDigit (b.toNat / 16), upperHexDigit (b.toNat % 16)]

/-- A title attribute, if there is a title. -/
def titleAttribute (title : Text) : Text :=
  if title = [] then [] else " title=\"".toList ++ Text.escapeQuoted title ++ ['"']

mutual

/-- Writes the text of inline markup alone, as the description of an
image. -/
def putPlain (out : Written) : Inline → Written
  | .text text => out.put (Text.escapeQuoted text)
  | .code text => out.put (Text.escapeQuoted text)
  | .raw markup => out.put (Text.escapeQuoted markup)
  | .softBreak => out.put " "
  | .lineBreak => out.put " "
  | .emphasis content => putPlainAll out content
  | .strong content => putPlainAll out content
  | .link _ _ content => putPlainAll out content
  | .image _ _ content => putPlainAll out content

/-- Writes the text of several pieces alone. -/
def putPlainAll (out : Written) : List Inline → Written
  | [] => out
  | inline :: rest => putPlainAll (putPlain out inline) rest

end

mutual

/-- Writes inline markup. -/
def putInline (out : Written) : Inline → Written
  | .text text => out.put (Text.escapeQuoted text)
  | .code text => ((out.put "<code>").put (Text.escapeQuoted text)).put "</code>"
  | .raw markup => out.put markup
  | .softBreak => out.put "\n"
  | .lineBreak => out.put "<br />\n"
  | .emphasis content => (putInlines (out.put "<em>") content).put "</em>"
  | .strong content => (putInlines (out.put "<strong>") content).put "</strong>"
  | .link destination title content =>
    let opened := out.put ("<a href=\"".toList ++ destination.flatMap destinationChar ++ ['"']
      ++ titleAttribute title ++ ['>'])
    (putInlines opened content).put "</a>"
  | .image destination title content =>
    let opened := out.put ("<img src=\"".toList ++ destination.flatMap destinationChar
      ++ "\" alt=\"".toList)
    ((putPlainAll opened content).put ('"' :: titleAttribute title)).put " />"

/-- Writes several pieces of inline markup. -/
def putInlines (out : Written) : List Inline → Written
  | [] => out
  | inline :: rest => putInlines (putInline out inline) rest

end

/-! ### Blocks -/

/-- What opens and closes a list. -/
def listTags (shape : ListShape) (number : Nat) : Text × Text :=
  match shape with
  | .bullet _ => ("<ul>\n", "</ul>\n")
  | .ordered _ =>
    if number = 1 then ("<ol>\n", "</ol>\n")
    else ("<ol start=\"".toList ++ Text.ofNat number ++ "\">\n".toList, "</ol>\n")

/-- The class that names the language of code: the first word of what is
said about it. -/
def codeClass (info : Text) : Text :=
  if info = [] then []
  else
    " class=\"language-".toList
      ++ Text.escapeQuoted (info.takeWhile fun c => c != ' ' && (c.toNat < 9 || 13 < c.toNat))
      ++ ['"']

mutual

/-- Writes a block; a `tight` one stands in an item of a tight list. -/
def putBlock (out : Written) (tight : Bool) : Block (List Inline) → Written
  | .paragraph content =>
    if tight then putInlines out content
    else (putInlines (out.freshLine.put "<p>") content).put "</p>\n"
  | .heading level content =>
    let name := 'h' :: Text.ofNat level
    ((((putInlines (((out.freshLine.put "<").put name).put ">") content).put "</").put name).put
      ">\n")
  | .rule => out.freshLine.put "<hr />\n"
  | .code info literal =>
    out.freshLine.put ("<pre><code".toList ++ codeClass info ++ ">".toList
      ++ Text.escapeQuoted literal ++ "</code></pre>\n".toList)
  | .raw literal => (out.freshLine.put literal).freshLine
  | .quote blocks =>
    (putBlocks (out.freshLine.put "<blockquote>\n") false blocks).freshLine.put "</blockquote>\n"
  | .list shape number tight items =>
    let (opening, closing) := listTags shape number
    (putItems (out.freshLine.put opening) tight items).put closing

/-- Writes several blocks. -/
def putBlocks (out : Written) (tight : Bool) : List (Block (List Inline)) → Written
  | [] => out
  | block :: rest => putBlocks (putBlock out tight block) tight rest

/-- Writes the items of a list. -/
def putItems (out : Written) (tight : Bool) : List (List (Block (List Inline))) → Written
  | [] => out
  | item :: rest =>
    putItems ((putBlocks (out.freshLine.put "<li>") tight item).put "</li>\n") tight rest

end

/-- A document as HTML. -/
def html (blocks : List (Block (List Inline))) : Text :=
  (putBlocks [] false blocks).reverse

end Marginalia.Markdown
