import Marginalia.Markdown.RawHtml
import Marginalia.Text.Blank

/-!
# `Marginalia.Markdown.Marker`: how blocks begin

What begins a block is decided by looking at a line behind its
indentation. Every function here takes that part of the line.
-/

set_option autoImplicit false

namespace Marginalia.Markdown

/-! ### Headings and rules -/

/-- The level of a heading that begins with number signs. -/
def headingLevel? (line : Text) : Option Nat :=
  let level := (line.takeWhile (· = '#')).length
  let after := line.drop level
  if 1 ≤ level && level ≤ 6 && (after = [] || after.head?.any isSpaceOrTab) then some level
  else none

/-- The text of a heading without the number signs that close it. A
heading of number signs alone has no text. -/
def dropClosing (text : Text) : Text :=
  let back := (trimRight text).reverse
  match back.dropWhile (· = '#') with
  | [] => []
  | c :: front =>
    if back.head? = some '#' && isSpaceOrTab c then trimRight front.reverse else back.reverse

/-- The level of the heading that a line below its text makes. -/
def underlineLevel? (line : Text) : Option Nat :=
  let only (mark : Char) := line.head? = some mark && skipSpaces (line.dropWhile (· = mark)) = []
  if only '=' then some 1 else if only '-' then some 2 else none

/-- Whether a line is a rule: three or more of one mark and nothing else. -/
def isRule (line : Text) : Bool :=
  match line with
  | mark :: _ =>
    (mark = '*' || mark = '_' || mark = '-')
      && line.all (fun c => c = mark || isSpaceOrTab c) && 3 ≤ line.count mark
  | [] => false

/-! ### Lists -/

/-- What tells lists apart: the bullet, or the delimiter of numbers. -/
inductive ListShape
  | bullet (mark : Char)
  | ordered (delimiter : Char)
deriving DecidableEq

/-- The marker of a list item: the shape of its list, its number, and how
many characters it takes. -/
structure ListMarker where
  shape : ListShape
  number : Nat
  width : Nat

/-- Whether what follows a marker lets it begin an item. A paragraph is
not interrupted by an empty item. -/
def allowsItem (interrupting : Bool) (after : Text) : Bool :=
  match after with
  | [] => !interrupting
  | c :: _ => isSpacing c && !(interrupting && skipSpaces after = [])

/-- The marker that begins a line. A paragraph is interrupted only by an
item with a bullet or the number one. -/
def listMarker? (interrupting : Bool) (line : Text) : Option ListMarker :=
  match line with
  | [] => none
  | c :: after =>
    if c = '*' || c = '-' || c = '+' then
      if allowsItem interrupting after then some ⟨.bullet c, 0, 1⟩ else none
    else
      let digits := (line.take 9).takeWhile Char.isDigit
      let number := digits.foldl (fun n d => n * 10 + (d.toNat - '0'.toNat)) 0
      match line.drop digits.length with
      | delimiter :: after =>
        if digits != [] && !(interrupting && number != 1)
            && (delimiter = '.' || delimiter = ')') && allowsItem interrupting after then
          some ⟨.ordered delimiter, number, digits.length + 1⟩
        else none
      | [] => none

/-! ### Fenced code -/

/-- A fence: its mark and length. -/
structure Fence where
  mark : Char
  length : Nat

/-- The fence that begins a code block, with what follows it. -/
def openingFence? (line : Text) : Option Fence :=
  match line with
  | mark :: _ =>
    let length := (line.takeWhile (· = mark)).length
    let info := line.drop length
    if 3 ≤ length && (mark = '~' || (mark = '\x60' && !info.contains '\x60')) then
      some ⟨mark, length⟩
    else none
  | [] => none

/-- Whether a line closes the code block that `fence` began. -/
def Fence.closedBy (fence : Fence) (line : Text) : Bool :=
  let length := (line.takeWhile (· = fence.mark)).length
  3 ≤ length && fence.length ≤ length && skipSpaces (line.drop length) = []

/-! ### Blocks of raw markup -/

/-- The kinds of blocks of raw markup. They differ in where they end. -/
inductive RawKind
  | literal
  | comment
  | instruction
  | declaration
  | characterData
  | named
  | lone
deriving DecidableEq

/-- The elements whose content is not read as Markdown at all. -/
def literalNames : List Text :=
  ["script", "pre", "textarea", "style"]

/-- The elements that make a block wherever they stand. -/
def blockNames : List Text :=
  Text.words "address article aside base basefont blockquote body caption center col colgroup
    dd details dialog dir div dl dt fieldset figcaption figure footer form frame
    frameset h1 h2 h3 h4 h5 h6 head header hr html iframe legend li link main menu
    menuitem nav noframes ol optgroup option p param search section summary table
    tbody td tfoot th thead title tr track ul"

/-- The name of the element that a text begins with, in lower case, and
what follows it. -/
def elementName (text : Text) : Text × Text :=
  (lower (text.takeWhile Char.isAlphanum), text.dropWhile Char.isAlphanum)

/-- Whether a name ends here: at the end of the line, at white space or
at a closing bracket. -/
def endsName (after : Text) : Bool :=
  match after with
  | [] => true
  | c :: _ => isSpacing c || c = '>'

/-- Whether an element that makes a block begins here. -/
def beginsNamed (text : Text) : Bool :=
  let (name, after) := elementName (Text.dropLead "/" text)
  blockNames.contains name && (endsName after || Text.begins "/>" after)

/-- Whether an element with literal content begins here. -/
def beginsLiteral (text : Text) : Bool :=
  let (name, after) := elementName text
  literalNames.contains name && endsName after

/-- Whether nothing stands behind a tag that makes a block alone. -/
def endsTagLine (after : Text) : Bool :=
  after.all fun c => isSpaceOrTab c || c = '\x0c'

/-- The kind of block of raw markup that begins with this line. A
paragraph is not interrupted by a lone tag. -/
def rawKind? (interrupting : Bool) (line : Text) : Option RawKind :=
  match line with
  | '<' :: text =>
    if beginsLiteral text then some .literal
    else if Text.begins "!--" text then some .comment
    else if Text.begins "?" text then some .instruction
    else if Text.begins "![cdata[" (lower text) then some .characterData
    else if Text.begins "!" text && (text.drop 1).head?.any Char.isAlpha then some .declaration
    else if beginsNamed text then some .named
    else if !interrupting && (afterTag? text).any endsTagLine then
      some .lone
    else none
  | _ => none

/-- Whether a block of raw markup ends with this line. -/
def RawKind.endsWith (kind : RawKind) (line : Text) : Bool :=
  match kind with
  | .literal => literalNames.any fun name =>
      Text.mentions ("</".toList ++ name ++ ">".toList) (lower line)
  | .comment => Text.mentions "-->" line
  | .instruction => Text.mentions "?>" line
  | .declaration => Text.mentions ">" line
  | .characterData => Text.mentions "]]>" line
  | .named => false
  | .lone => false

/-- Whether a block of raw markup ends before a blank line. -/
def RawKind.endsAtBlank (kind : RawKind) : Bool :=
  kind = .named || kind = .lone

end Marginalia.Markdown
