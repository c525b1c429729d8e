import Marginalia.Markdown.Open.Reach
import Marginalia.Markdown.Place

/-!
# `Marginalia.Markdown.Structure`: finding the blocks of a document

The blocks are found line by line. At any time some blocks are open, each
within the one before it. A line first continues as many of them as its
beginning allows, from the outermost on. Then it may open new blocks
within the innermost that it continues. What is left is text of the
innermost block. Open blocks that a line does not continue are closed,
unless the line is the lazy continuation of a paragraph.
-/

set_option autoImplicit false

namespace Marginalia.Markdown

/-- The state between two lines: the definitions so far, the open blocks,
innermost first, and the number of lines read. -/
structure Progress where
  refs : References
  innermost : Open
  outer : List Open
  line : Nat

/-- A paragraph that a line continues lazily, with that line added. -/
def addLazily (text : Text) (others : List Open) : List Open :=
  match others.reverse with
  | last :: before => (({ last with kind := last.kind.addLine text } : Open) :: before).reverse
  | [] => []

/-- Whether the innermost of `others` is a paragraph. -/
def endsInParagraph (others : List Open) : Bool :=
  others.getLast?.any (·.kind.isParagraph)

/-- The blocks from the outermost to the innermost, taken apart. -/
def Progress.ofPath (refs : References) (line : Nat) (default : Open) (path : List Open) :
    Progress :=
  match path with
  | innermost :: outer => ⟨refs, innermost, outer, line⟩
  | [] => ⟨refs, default, [], line⟩

/-- Reads one line. -/
def Progress.readLine (s : Progress) (text : Text) : Progress :=
  let line := s.line + 1
  let mayBeLazy := s.innermost.kind.isParagraph
  let start := Cursor.start (if line = 1 then Text.dropLead "\uFEFF" text else text)
  let r := reach [] start (s.innermost :: s.outer).reverse
  match r.continued with
  | [] => { s with line }
  | innermost :: outer =>
    let p : Place := ⟨s.refs, innermost, outer, r.others, r.cursor⟩
    if r.endsCode then
      let p := p.closeOthers
      ⟨p.refs, p.innermost, p.outer, line⟩
    else
      let (p, opened) := p.openAll line (text.length + 1) 0 mayBeLazy false
      let p := p.noteBlank line
      if !opened && !p.others.isEmpty && !p.cursor.blank && endsInParagraph p.others then
        let path := (addLazily p.cursor.text p.others).reverse ++ p.innermost :: p.outer
        Progress.ofPath p.refs line p.innermost path
      else
        let p := p.closeOthers.takeText
        ⟨p.refs, p.innermost, p.outer, line⟩

/-- The lines of a document. A line ends in a line feed, a carriage
return or both, and a null character is not kept. -/
def documentLines (text : Text) : List Text :=
  let (line, lines, _) := text.foldr
    (fun c (line, lines, feed) =>
      if c = '\n' then ([], line :: lines, true)
      else if c = '\r' then (if feed then (line, lines, false) else ([], line :: lines, false))
      else ((if c.toNat = 0 then '\uFFFD' else c) :: line, lines, false))
    (([], [], false) : Text × List Text × Bool)
  let cut := line :: lines
  if cut.getLast? = some [] then cut.dropLast else cut

/-- The blocks of a document and its definitions. -/
def findBlocks (text : Text) : List (Block Text) × References :=
  let start : Progress := ⟨References.empty, ⟨.document, [], false⟩, [], 0⟩
  let s := (documentLines text).foldl Progress.readLine start
  match (s.innermost :: s.outer).reverse with
  | [] => ([], s.refs)
  | document :: inner =>
    let (refs, document) := document.absorb s.refs inner
    (blocksOf document.closed, refs)

end Marginalia.Markdown
