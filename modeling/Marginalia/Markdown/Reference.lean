import Marginalia.Markdown.Entity
import Marginalia.Table
import Marginalia.Text.Blank
import Marginalia.Unicode.Folding

/-!
# `Marginalia.Markdown.Reference`: link destinations, titles and labels

The pieces that links are written with, and the definitions that give a
label its destination. Each reader looks at the beginning of a text and
answers with what it read and what follows.
-/

set_option autoImplicit false

namespace Marginalia.Markdown

/-! ### Labels -/

/-- The longest label, in bytes. -/
def longestLabel : Nat := 1000

/-- Reads a label up to its closing bracket; `done` is, in reverse, what
was read before, and `size` its bytes. -/
def labelOnto? (done : Text) (size : Nat) (text : Text) : Option (Text × Text) :=
  if longestLabel < size then none
  else match text with
    | [] => none
    | '\\' :: c :: rest =>
      if isMark c then labelOnto? (c :: '\\' :: done) (size + 2) rest
      else labelOnto? ('\\' :: done) (size + 1) (c :: rest)
    | c :: rest =>
      if c = ']' then some (done.reverse, rest)
      else if c = '[' then none
      else labelOnto? (c :: done) (size + c.utf8Size) rest
termination_by text.length

/-- A label in brackets, without white space around it. -/
def label? (text : Text) : Option (Text × Text) :=
  match text with
  | '[' :: rest => (labelOnto? [] 0 rest).map fun (label, rest) => (trimBoth label, rest)
  | _ => none

/-- The text with every run of blanks made one space. -/
def collapseBlanks (text : Text) : Text :=
  text.foldr
    (fun c rest =>
      if isBlank c then (if rest.head? = some ' ' then rest else ' ' :: rest) else c :: rest)
    []

/-- What a label is looked up by: case and the amount of white space do
not matter. -/
def labelKey (label : Text) : Text :=
  Unicode.foldCase (collapseBlanks (trimBoth label))

/-! ### Destinations -/

/-- Reads a destination up to its closing angle bracket. -/
def pointedOnto? (done : Text) : (text : Text) → Option (Text × Text)
  | [] => none
  | ['\\'] => none
  | '\\' :: c :: rest => pointedOnto? (c :: '\\' :: done) rest
  | c :: rest =>
    if c = '>' then some (done.reverse, rest)
    else if c = '\n' || c = '<' then none
    else pointedOnto? (c :: done) rest

/-- The number of open parentheses that a destination may have. -/
def deepestParentheses : Nat := 32

/-- Reads a destination without angle brackets; `nested` is the number of
parentheses in it that are not yet closed. -/
def bareOnto? (done : Text) (nested : Nat) (text : Text) : Option (Text × Text) :=
  match text with
  | [] => none
  | c :: rest =>
    if c = '\\' && rest.head?.any isMark then
      bareOnto? (rest.headD c :: c :: done) nested (rest.drop 1)
    else if c = '(' then
      if deepestParentheses ≤ nested then none else bareOnto? (c :: done) (nested + 1) rest
    else if c = ')' then
      if nested = 0 then some (done.reverse, c :: rest)
      else bareOnto? (c :: done) (nested - 1) rest
    else if isSpacing c || isControl c then
      if done = [] || nested != 0 then none else some (done.reverse, c :: rest)
    else bareOnto? (c :: done) nested rest
termination_by text.length
decreasing_by all_goals (simp_wf; try omega)

/-- The destination that begins a text, as it is written. -/
def destination? (text : Text) : Option (Text × Text) :=
  match text with
  | '<' :: rest => pointedOnto? [] rest
  | _ => bareOnto? [] 0 text

/-- What a written destination means. -/
def resolveDestination (written : Text) : Text :=
  resolveEscapes (trimBoth written)

/-! ### Titles -/

/-- Reads a title up to `close`. A closing mark behind a backslash ends
the title only if none without one follows; `best` is the last of these. -/
def titleOnto? (close : Char) (done : Text) (best : Option (Text × Text)) :
    (text : Text) → Option (Text × Text)
  | [] => best
  | c :: rest =>
    let escaped := done.head? = some '\\'
    if c = close then
      if escaped then titleOnto? close (c :: done) (some (done.reverse, rest)) rest
      else some (done.reverse, rest)
    else if close = ')' && c = '(' && !escaped then best
    else titleOnto? close (c :: done) best rest

/-- The title that begins a text, as it is written between its marks. -/
def title? (text : Text) : Option (Text × Text) :=
  match text with
  | '"' :: rest => titleOnto? '"' [] none rest
  | '\'' :: rest => titleOnto? '\'' [] none rest
  | '(' :: rest => titleOnto? ')' [] none rest
  | _ => none

/-! ### Definitions -/

/-- Where a link leads, and its title. -/
structure Target where
  destination : Text
  title : Text
deriving DecidableEq

/-- The definitions of a document by the keys of their labels. -/
structure References where
  targets : Table Target

namespace References

/-- No definitions. -/
def empty : References := ⟨Table.empty⟩

/-- The definitions with one more. The first one of a label counts. -/
def define (refs : References) (key : Text) (target : Target) : References :=
  if key = [] || (refs.targets.get? key).isSome then refs
  else ⟨refs.targets.insert key target⟩

end References

/-- What follows spaces, tabs and at most one line feed. -/
def skipLineBreak (text : Text) : Text :=
  match skipSpaces text with
  | '\n' :: rest => skipSpaces rest
  | rest => rest

/-- What follows the rest of a line that holds nothing more. -/
def emptyLine? (text : Text) : Option Text :=
  match skipSpaces text with
  | [] => some []
  | '\n' :: rest => some rest
  | _ => none

/-- A title behind a destination, on its line or the next, that is the
last thing on its line. -/
def definitionTitle? (text : Text) : Option (Text × Text) :=
  if (skipLineBreak text).length = text.length then none
  else do
    let (title, rest) ← title? (skipLineBreak text)
    let rest ← emptyLine? rest
    return (title, rest)

/-- The definition that begins a text: its label's key, its target, and
what follows. -/
def definition? (text : Text) : Option (Text × Target × Text) := do
  let (label, rest) ← label? text
  if label = [] then none
  match rest with
  | ':' :: rest =>
    let (destination, rest) ← destination? (skipLineBreak rest)
    let (title, rest) ← (definitionTitle? rest).or ((emptyLine? rest).map ([], ·))
    return (labelKey label, ⟨resolveDestination destination, resolveEscapes title⟩, rest)
  | _ => none

/-- Takes the definitions off the beginning of a paragraph; `fuel` bounds
their number. -/
def takeDefinitions : (fuel : Nat) → References → (text : Text) → References × Text
  | 0, refs, text => (refs, text)
  | fuel + 1, refs, text =>
    match definition? text with
    | some (key, target, rest) => takeDefinitions fuel (refs.define key target) rest
    | none => (refs, text)

end Marginalia.Markdown
