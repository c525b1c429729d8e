import Marginalia.Markdown.Cursor
import Marginalia.Markdown.Open.Close

/-!
# `Marginalia.Markdown.Place`: opening blocks

Behind the marks of the blocks that it continues, a line may open new
ones, each within the one before. What is left of it is text of the
innermost block.
-/

set_option autoImplicit false

namespace Marginalia.Markdown

/-- The state while a line is read: the definitions so far, the blocks
that are open for it, innermost first and never none, the blocks that it
does not continue, outermost first, and its place. -/
structure Place where
  refs : References
  innermost : Open
  outer : List Open
  others : List Open
  cursor : Cursor

namespace Place

/-- Closes the blocks that the line does not continue. -/
def closeOthers (p : Place) : Place :=
  let (refs, innermost) := p.innermost.absorb p.refs p.others
  { p with refs, innermost, others := [] }

/-- Closes the innermost block, if another holds it. -/
def closeInnermost (p : Place) (tight? : Option Bool) : Place :=
  match p.outer with
  | [] => p
  | parent :: outer =>
    let (refs, closed) := p.innermost.close p.refs tight?
    { p with refs, innermost := parent.add closed, outer }

/-- Opens a block of the given kind, in the innermost block if it may
stand there and next to it otherwise. Whether a list that ends here is
tight depends on its blocks as they were while open. -/
def openBlock (kind : OpenKind) (p : Place) : Place :=
  let p :=
    if p.innermost.kind.holds kind then p.closeOthers
    else p.closeOthers.closeInnermost (some (p.innermost.tightWith p.others))
  { p with innermost := ⟨kind, [], false⟩, outer := p.innermost :: p.outer }

/-- The place with its cursor moved. -/
def moveTo (cursor : Cursor) (p : Place) : Place :=
  { p with cursor }

/-- The place with its innermost block changed in kind. -/
def become (kind : OpenKind) (p : Place) : Place :=
  { p with innermost := { p.innermost with kind } }

/-! Each of the following opens one kind of block if it begins here. -/

/-- Opens a quote. -/
def openQuote? (p : Place) : Option Place :=
  if p.cursor.indent < 4 && p.cursor.content.head? = some '>' then
    some ((p.openBlock .quote).moveTo ((p.cursor.toContent.skip 1).skipSpaces 1))
  else none

/-- Opens a heading that begins with number signs. -/
def openHeading? (p : Place) : Option Place :=
  if p.cursor.indent < 4 then
    (headingLevel? p.cursor.content).map fun level =>
      (p.openBlock (.heading level [])).moveTo (p.cursor.toContent.skip level).toContent
  else none

/-- Opens fenced code. -/
def openFenced? (p : Place) : Option Place :=
  if p.cursor.indent < 4 then
    (openingFence? p.cursor.content).map fun fence =>
      (p.openBlock (.fenced fence (consumed p.cursor.rest p.cursor.content) [])).moveTo
        (p.cursor.toContent.skip fence.length)
  else none

/-- Opens a block of raw markup. -/
def openRaw? (p : Place) : Option Place :=
  if p.cursor.indent < 4 then
    (rawKind? p.innermost.kind.isParagraph p.cursor.content).map fun kind =>
      p.openBlock (.raw kind [])
  else none

/-- Makes a paragraph a heading by the line below it. A paragraph of
nothing but definitions stays a paragraph. -/
def underline? (p : Place) : Option Place :=
  match p.innermost.kind, underlineLevel? p.cursor.content with
  | .paragraph text, some level =>
    if p.cursor.indent < 4 then
      let text := text.reverse
      let (refs, text) := takeDefinitions text.length p.refs text
      let p := { p with refs }
      if firstLineBlank text then some (p.become (.paragraph text.reverse))
      else some ((p.become (.heading level text.reverse)).moveTo p.cursor.toEnd)
    else none
  | _, _ => none

/-- Opens a rule. -/
def openRule? (p : Place) : Option Place :=
  if p.cursor.indent < 4 && isRule p.cursor.content then
    some ((p.openBlock .rule).moveTo p.cursor.toEnd)
  else none

/-- The number of lists that a line may open at most. -/
def deepestLists : Nat := 100

/-- The place behind the spaces after a marker, and their number where
they count for the width of the item. -/
def behindMarker (c : Cursor) : Cursor × Nat :=
  let far := c.skipSpaces 6
  let spaces := far.column - c.column
  if spaces = 0 then (c, 1)
  else if 5 ≤ spaces || far.rest = [] then (c.skipSpaces 1, 1)
  else (far, spaces)

/-- Opens an item on line `line`, and a list around it unless it goes on
with the innermost one. -/
def openItem? (line depth : Nat) (p : Place) : Option Place :=
  if p.cursor.indent < 4 && depth < deepestLists then
    (listMarker? p.innermost.kind.isParagraph p.cursor.content).map fun marker =>
      let (cursor, spaces) := behindMarker (p.cursor.toContent.skip marker.width)
      let goesOn : Bool :=
        match p.innermost.kind with
        | .list shape _ => shape = marker.shape
        | _ => false
      let p := if goesOn then p else p.openBlock (.list marker.shape marker.number)
      (p.openBlock (.item (p.cursor.indent + marker.width + spaces) line)).moveTo cursor
  else none

/-- Opens indented code. -/
def openIndented? (mayBeLazy : Bool) (p : Place) : Option Place :=
  if 4 ≤ p.cursor.indent && !mayBeLazy && !p.cursor.blank then
    some ((p.openBlock (.indented [])).moveTo (p.cursor.skipColumns 4))
  else none

/-- Opens the first kind of block that begins here. -/
def openOne? (line depth : Nat) (mayBeLazy : Bool) (p : Place) : Option Place :=
  openQuote? p <|> openHeading? p <|> openFenced? p <|> openRaw? p <|> underline? p
    <|> openRule? p <|> openItem? line depth p <|> openIndented? mayBeLazy p

/-- Opens all blocks that begin here, each within the one before, and
says whether there were any; `fuel` bounds their number. -/
def openAll (line : Nat) : (fuel depth : Nat) → (mayBeLazy opened : Bool) → Place → Place × Bool
  | 0, _, _, opened, p => (p, opened)
  | fuel + 1, depth, mayBeLazy, opened, p =>
    if p.innermost.kind.isVerbatim then (p, opened)
    else match openOne? line (depth + 1) mayBeLazy p with
      | none => (p, opened)
      | some p =>
        if p.innermost.kind.takesText then (p, true)
        else openAll line fuel (depth + 1) false true p

/-! ### Text -/

/-- Whether a blank line that reaches the innermost block counts as
following it. -/
def blankFollows (line : Nat) (o : Open) (hasMore : Bool) : Bool :=
  match o.kind with
  | .quote => false
  | .heading .. => false
  | .rule => false
  | .fenced .. => false
  | .item _ first => hasMore || !o.closed.isEmpty || first != line
  | _ => true

/-- Notes that a blank line follows the last block in `o`, which is open
if `others` holds it and closed otherwise. -/
def markLast (o : Open) (others : List Open) : Open × List Open :=
  match others with
  | first :: rest => (o, { first with trailing := true } :: rest)
  | [] =>
    match o.closed with
    | last :: before => ({ o with closed := { last with trailing := true } :: before }, [])
    | [] => (o, [])

/-- Notes what a line means for blank lines between blocks. -/
def noteBlank (line : Nat) (p : Place) : Place :=
  let blank := p.cursor.blank
  let follows := blank && blankFollows line p.innermost (!p.others.isEmpty)
  let (innermost, others) :=
    if blank then markLast p.innermost p.others else (p.innermost, p.others)
  { p with
    innermost := { innermost with trailing := follows }
    others
    outer := p.outer.map fun o => { o with trailing := false } }

/-- The place with one more line of text in its innermost block. -/
def addText (text : Text) (p : Place) : Place :=
  p.become (p.innermost.kind.addLine text)

/-- Gives the rest of the line to the innermost block. -/
def takeText (p : Place) : Place :=
  match p.innermost.kind with
  | .raw kind _ =>
    let ends := kind.endsWith p.cursor.content
    let p := p.addText p.cursor.text
    if ends then p.closeInnermost none else p
  | .fenced .. => p.addText p.cursor.text
  | .indented _ => p.addText p.cursor.text
  | .paragraph _ => if p.cursor.blank then p else p.addText p.cursor.content
  | .heading .. => if p.cursor.blank then p else p.addText (dropClosing p.cursor.content)
  | _ =>
    if p.cursor.blank then p
    else
      let p := if p.innermost.kind.holdsBlocks then p else p.closeInnermost none
      let paragraph : Open := ⟨.paragraph [], [], false⟩
      let p := { p with innermost := paragraph, outer := p.innermost :: p.outer }
      p.addText p.cursor.content

end Place

end Marginalia.Markdown
