import Marginalia.Markdown.Open.Basic
import Marginalia.Markdown.Reference

/-!
# `Marginalia.Markdown.Open.Close`: closing blocks

A block that closes becomes part of the block around it. Only now is a
paragraph rid of its definitions, and a list known to be tight or not.
-/

set_option autoImplicit false

namespace Marginalia.Markdown

/-- Whether a blank line stands between two of the blocks, last first. -/
def hasGap (closed : List Closed) : Bool :=
  (closed.drop 1).any (·.trailing)

/-- Whether no blank line stands between two items or between two blocks
of an item. -/
def isTight (items : List Closed) : Bool :=
  !items.any (·.gap) && !hasGap items

/-- The text of indented code without the blank lines at its end. -/
def dropBlankEnd (text : Text) : Text :=
  let (blank, rest) := text.reverse.span fun c => isSpaceOrTab c || c = '\n'
  rest.reverse ++ blank.reverse.takeWhile (· != '\n')

/-- The code that a fence encloses: the first line is about the code. -/
def fencedBlock (text : Text) : Block Text :=
  let first := text.takeWhile (· != '\n')
  .code (dropBackslashes (trimBoth (dropReferences first))) ((text.drop first.length).drop 1)

/-- Whether the first line of a text holds nothing. -/
def firstLineBlank (text : Text) : Bool :=
  match skipSpaces text with
  | [] => true
  | c :: _ => c = '\n'

/-- The blocks of closed blocks, last first. -/
def blocksOf (closed : List Closed) : List (Block Text) :=
  closed.reverse.filterMap fun c =>
    match c.body with
    | .inl block => some block
    | .inr _ => none

/-- The items of closed items, last first. -/
def itemsOf (closed : List Closed) : List (List (Block Text)) :=
  closed.reverse.filterMap fun c =>
    match c.body with
    | .inl _ => none
    | .inr item => some item

/-- Whether a blank line follows the last line of the last closed block. -/
def lastTrailing (closed : List Closed) : Bool :=
  closed.head?.any (·.trailing)

/-- Closes a block. A paragraph gives up its definitions, and is nothing
when it has nothing else. `tight?` is what is already known of a list. -/
def Open.close (refs : References) (tight? : Option Bool) (o : Open) :
    References × Option Closed :=
  let leaf (block : Block Text) : References × Option Closed :=
    (refs, some ⟨.inl block, o.trailing, false⟩)
  match o.kind with
  | .document => leaf (.quote (blocksOf o.closed))
  | .quote => leaf (.quote (blocksOf o.closed))
  | .list shape number =>
    let tight := tight?.getD (isTight o.closed)
    (refs, some ⟨.inl (.list shape number tight (itemsOf o.closed)),
      o.trailing || lastTrailing o.closed, false⟩)
  | .item .. =>
    (refs, some ⟨.inr (blocksOf o.closed), o.trailing || lastTrailing o.closed,
      hasGap o.closed⟩)
  | .paragraph text =>
    let text := text.reverse
    let (refs, text) := takeDefinitions text.length refs text
    if firstLineBlank text then (refs, none)
    else (refs, some ⟨.inl (.paragraph text), o.trailing, false⟩)
  | .heading level text => leaf (.heading level text.reverse)
  | .rule => leaf .rule
  | .fenced _ _ text => leaf (fencedBlock text.reverse)
  | .indented text => leaf (.code [] (dropBlankEnd text.reverse ++ ['\n']))
  | .raw _ text => leaf (.raw text.reverse)

/-- An open block with a closed one added. -/
def Open.add (o : Open) : Option Closed → Open
  | none => o
  | some c => ⟨o.kind, c :: o.closed, o.trailing⟩

/-- Closes the blocks of `inner`, outermost first, into `o`. -/
def Open.absorb (refs : References) (o : Open) : (inner : List Open) → References × Open
  | [] => (refs, o)
  | first :: rest =>
    let (refs, first) := Open.absorb refs first rest
    let (refs, closed) := first.close refs none
    (refs, o.add closed)

/-- Whether the list `o` is tight, where `inner` are the open blocks in
it, outermost first, none of which has been closed. -/
def Open.tightWith (o : Open) (inner : List Open) : Bool :=
  match inner with
  | [] => isTight o.closed
  | [item] => !o.closed.any (·.gap) && !o.closed.any (·.trailing) && !hasGap item.closed
  | item :: _ =>
    !o.closed.any (·.gap) && !o.closed.any (·.trailing) && !item.closed.any (·.trailing)

end Marginalia.Markdown
