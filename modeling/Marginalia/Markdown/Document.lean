import Marginalia.Markdown.Html
import Marginalia.Markdown.Inline.Scan
import Marginalia.Markdown.Structure

/-!
# `Marginalia.Markdown.Document`: Markdown to HTML

First the blocks of a document are found, together with all definitions
that links may refer to. Then the content of paragraphs and headings is
read, in the order of the document, and the whole is written as HTML.
-/

set_option autoImplicit false

namespace Marginalia.Markdown

mutual

/-- A block whose content has been read. -/
def readBlock (refs : References) (budget : Budget) :
    Block Text → Block (List Inline) × Budget
  | .paragraph text =>
    let (content, budget) := readInlines refs budget text
    (.paragraph content, budget)
  | .heading level text =>
    let (content, budget) := readInlines refs budget text
    (.heading level content, budget)
  | .rule => (.rule, budget)
  | .code info literal => (.code info literal, budget)
  | .raw literal => (.raw literal, budget)
  | .quote blocks =>
    let (blocks, budget) := readBlocks refs budget blocks
    (.quote blocks, budget)
  | .list shape number tight items =>
    let (items, budget) := readItems refs budget items
    (.list shape number tight items, budget)

/-- Blocks whose content has been read. -/
def readBlocks (refs : References) (budget : Budget) :
    List (Block Text) → List (Block (List Inline)) × Budget
  | [] => ([], budget)
  | block :: rest =>
    let (block, budget) := readBlock refs budget block
    let (rest, budget) := readBlocks refs budget rest
    (block :: rest, budget)

/-- Items whose content has been read. -/
def readItems (refs : References) (budget : Budget) :
    List (List (Block Text)) → List (List (Block (List Inline))) × Budget
  | [] => ([], budget)
  | item :: rest =>
    let (item, budget) := readBlocks refs budget item
    let (rest, budget) := readItems refs budget rest
    (item :: rest, budget)

end

/-- What references may always insert, in bytes. -/
def leastBudget : Nat := 100000

/-- Renders Markdown to HTML. References may insert as many bytes as the
document has, and a fixed number in any case. -/
def render (text : Text) : Text :=
  let (blocks, refs) := findBlocks text
  let budget : Budget := ⟨0, max leastBudget (Utf8.size text)⟩
  html (readBlocks refs budget blocks).1

end Marginalia.Markdown
