import Marginalia.Markdown.Inline.Emphasis
import Marginalia.Markdown.RawHtml
import Marginalia.Markdown.Reference

/-!
# `Marginalia.Markdown.Inline.Scan`: reading the content of a paragraph

Content is read from left to right. Most markup is known as soon as it
begins. A bracket is kept open until its closing one is met, which makes
a link or an image of what stands between them if a destination or a
defined label is given, and leaves both as text otherwise.
-/

set_option autoImplicit false

namespace Marginalia.Markdown

/-- The destinations and titles that references may insert: how many
bytes were inserted so far, and how many are allowed. -/
structure Budget where
  spent : Nat
  limit : Nat

/-- An open bracket: whether it begins an image, the pieces before it,
last first, the text behind it and where that is, and whether another
bracket was opened behind it. -/
structure Bracket where
  image : Bool
  before : List Piece
  inside : Text
  position : Nat
  holdsBracket : Bool

/-- What was found not to be closed in the rest of the text, so that it
is not looked for again. -/
structure Unclosed where
  comment : Bool
  characterData : Bool
  declaration : Bool
  instruction : Bool

/-- The state while content is read: the pieces behind the innermost open
bracket, last first, the open brackets, innermost first, whether these
may make links, and whether a line break was just read. -/
structure Scan where
  pieces : List Piece
  brackets : List Bracket
  noLinks : Bool
  afterBreak : Bool
  unclosed : Unclosed
  budget : Budget

/-- The state after one more piece of markup, and how many characters it
took. -/
structure Read where
  scan : Scan
  taken : Nat

/-- The written form of an opening bracket. -/
def Bracket.written (b : Bracket) : Text :=
  if b.image then "![" else "["

namespace Scan

/-- Before anything is read. -/
def start (budget : Budget) : Scan :=
  ⟨[], [], true, false, ⟨false, false, false, false⟩, budget⟩

/-- One more piece. -/
def push (s : Scan) (piece : Piece) : Scan :=
  { s with pieces := piece :: s.pieces, afterBreak := false }

/-- One more piece of content. -/
def add (s : Scan) (inline : Inline) : Scan :=
  s.push (.inline inline)

/-- A line break. -/
def addLineBreak (s : Scan) : Scan :=
  { s.add .lineBreak with afterBreak := true }

/-! ### Text, breaks and escapes -/

/-- Reads one character as text. -/
def readChar (s : Scan) (c : Char) : Read :=
  ⟨s.add (.text [c]), 1⟩

/-- Whether a character may begin markup. -/
def isSpecial (c : Char) : Bool :=
  c = '\n' || c = '_' || c = '*' || c = '"' || c = '\'' || c = '\x60' || c = '\\' || c = '&'
    || c = '<' || c = '[' || c = ']' || c = '!'

/-- Reads text up to the next character that may begin markup. White
space before a line feed and behind a line break is left out. -/
def readText (s : Scan) (text : Text) : Read :=
  let run := text.takeWhile (!isSpecial ·)
  let rest := text.dropWhile (!isSpecial ·)
  let shown := if rest.head? = some '\n' then trimRight run else run
  let shown := if s.afterBreak then trimLeft shown else shown
  ⟨s.add (.text shown), run.length⟩

/-- Reads a line feed, `back` being what stands before it in reverse. Two
spaces before it make a line break. -/
def readLineFeed (s : Scan) (back rest : Text) : Read :=
  let s :=
    match back with
    | ' ' :: ' ' :: _ => s.addLineBreak
    | _ => s.add .softBreak
  ⟨s, 1 + (rest.takeWhile isSpaceOrTab).length⟩

/-- Reads a backslash. -/
def readBackslash (s : Scan) (rest : Text) : Read :=
  match rest with
  | '\n' :: _ => ⟨s.addLineBreak, 2⟩
  | c :: _ => if isMark c then ⟨s.add (.text [c]), 2⟩ else s.readChar '\\'
  | [] => s.readChar '\\'

/-- Reads an ampersand. -/
def readReference (s : Scan) (rest : Text) : Read :=
  match reference? rest with
  | some (found, after) => ⟨s.add (.text found), 1 + consumed rest after⟩
  | none => s.readChar '&'

/-! ### Code -/

/-- The longest run of backticks that begins code. -/
def mostBackticks : Nat := 80

/-- The text up to the next run of exactly `count` backticks; `inRun` is
the length of the run just read and `done` what was read, in reverse. -/
def codeOnto? (count : Nat) (done : Text) (inRun : Nat) : (text : Text) → Option Text
  | [] => if inRun = count then some (done.drop count).reverse else none
  | c :: rest =>
    if c = '\x60' then codeOnto? count (c :: done) (inRun + 1) rest
    else if inRun = count then some (done.drop count).reverse
    else codeOnto? count (c :: done) 0 rest

/-- Code as it is shown: line feeds are spaces, and one space on either
side is dropped unless there is nothing but spaces. -/
def codeText (written : Text) : Text :=
  let code := written.map fun c => if c = '\n' then ' ' else c
  match code with
  | ' ' :: inner =>
    if code.any (· != ' ') && code.getLast? = some ' ' then inner.dropLast else code
  | _ => code

/-- Reads a run of backticks. -/
def readBackticks (s : Scan) (text : Text) : Read :=
  let ticks := text.takeWhile (· = '\x60')
  let count := ticks.length
  let found :=
    if mostBackticks < count then none else codeOnto? count [] 0 (text.drop count)
  match found with
  | some code => ⟨s.add (.code (codeText code)), count + code.length + count⟩
  | none => ⟨s.add (.text ticks), count⟩

/-! ### Autolinks and raw markup -/

/-- The address in an autolink with a scheme. -/
def uriAutolink? (text : Text) : Option Text :=
  let scheme := text.takeWhile fun c => c.isAlphanum || c = '.' || c = '+' || c = '-'
  match text.drop scheme.length with
  | ':' :: rest =>
    let address := rest.takeWhile fun c => c != '<' && c != '>' && 0x20 < c.toNat
    if scheme.head?.any Char.isAlpha && 2 ≤ scheme.length && scheme.length ≤ 32
        && (rest.drop address.length).head? = some '>' then
      some (scheme ++ ':' :: address)
    else none
  | _ => none

/-- Whether a character can stand before the at sign of an address. -/
def isAddressChar (c : Char) : Bool :=
  c.isAlphanum || ".!#$%&'*+/=?^_\x60\x7b|\x7d~-".toList.contains c

/-- Whether a part of a domain is well formed. -/
def isDomainPart (part : Text) : Bool :=
  1 ≤ part.length && part.length ≤ 63 && part.all (fun c => c.isAlphanum || c = '-')
    && part.head? != some '-' && part.getLast? != some '-'

/-- The mail address in an autolink. -/
def mailAutolink? (text : Text) : Option Text :=
  let user := text.takeWhile isAddressChar
  match text.drop user.length with
  | '@' :: rest =>
    let domain := rest.takeWhile fun c => c.isAlphanum || c = '-' || c = '.'
    if user != [] && (Text.splitOn '.' domain).all isDomainPart
        && (rest.drop domain.length).head? = some '>' then
      some (user ++ '@' :: domain)
    else none
  | _ => none

/-- Reads an autolink, whose text is its destination. -/
def readAutolink (s : Scan) (scheme address : Text) : Read :=
  ⟨s.add (.link (scheme ++ dropReferences (trimBoth address)) []
      [.text (dropReferences address)]),
    address.length + 2⟩

/-- Reads raw markup; `text` is what follows its `<`, up to `rest`. -/
def readRaw (s : Scan) (text rest : Text) : Read :=
  let count := consumed text rest
  ⟨s.add (.raw ('<' :: text.take count)), 1 + count⟩

/-- Reads markup that begins with `<!`; `text` follows the `<`. -/
def readDeclaration (s : Scan) (text : Text) : Read :=
  if s.unclosed.comment then s.readChar '<'
  else match text with
    | '!' :: '-' :: '-' :: '>' :: rest => s.readRaw text rest
    | '!' :: '-' :: '-' :: '-' :: '>' :: rest => s.readRaw text rest
    | '!' :: '-' :: '-' :: content =>
      match afterComment? content with
      | some rest => s.readRaw text rest
      | none => { s with unclosed := { s.unclosed with comment := true } : Scan }.readChar '<'
    | '!' :: '[' :: content =>
      if s.unclosed.characterData then s.readChar '<'
      else match (Text.after? "CDATA[" content).map afterCharacterData with
        | none => s.readChar '<'
        | some (']' :: ']' :: '>' :: rest) => s.readRaw text rest
        | some _ =>
          { s with unclosed := { s.unclosed with characterData := true } : Scan }.readChar '<'
    | '!' :: content =>
      if s.unclosed.declaration || !content.head?.any Char.isAlpha then s.readChar '<'
      else match content.dropWhile (· != '>') with
        | _ :: rest => s.readRaw text rest
        | [] => { s with unclosed := { s.unclosed with declaration := true } : Scan }.readChar '<'
    | _ => s.readChar '<'

/-- Reads a processing instruction, whose content is `content`; `text`
follows the `<`. -/
def readInstruction (s : Scan) (text content : Text) : Read :=
  if s.unclosed.instruction then s.readChar '<'
  else match afterInstruction content with
    | '?' :: '>' :: rest => s.readRaw text rest
    | _ => { s with unclosed := { s.unclosed with instruction := true } : Scan }.readChar '<'

/-- Reads an opening angle bracket, which `text` follows. -/
def readAngle (s : Scan) (text : Text) : Read :=
  match uriAutolink? text, mailAutolink? text, text with
  | some address, _, _ => s.readAutolink [] address
  | none, some address, _ => s.readAutolink "mailto:" address
  | none, none, '!' :: _ :: _ => s.readDeclaration text
  | none, none, '?' :: content => s.readInstruction text content
  | none, none, _ =>
    match afterTag? text with
    | some rest => s.readRaw text rest
    | none => s.readChar '<'

/-! ### Runs and brackets -/

/-- Reads a run of stars or underscores, `back` being what stands before
it in reverse. -/
def readRun (s : Scan) (mark : Char) (back text : Text) : Read :=
  let length := (text.takeWhile (· = mark)).length
  let after := (text.drop length).headD '\n'
  ⟨s.push (.run (Run.between mark (back.headD '\n') after length)), length⟩

/-- Opens a bracket, behind which `inside` stands at `position`. -/
def openBracket (s : Scan) (image : Bool) (position : Nat) (inside : Text) : Read :=
  let outer :=
    match s.brackets with
    | [] => []
    | top :: below => { top with holdsBracket := true } :: below
  ⟨{ s with
      pieces := []
      brackets := ⟨image, s.pieces, inside, position, false⟩ :: outer
      noLinks := image && s.noLinks
      afterBreak := false },
    if image then 2 else 1⟩

/-- Reads a closing bracket as text, and leaves its opening one as text
too. -/
def leaveBracket (s : Scan) (b : Bracket) (below : List Bracket) : Read :=
  let s : Scan :=
    { s with
      pieces := s.pieces ++ .inline (.text b.written) :: b.before
      brackets := below }
  s.readChar ']'

/-- Makes a link or an image of what stands in a bracket; `taken`
characters follow that were read for its target. -/
def closeBracket (s : Scan) (b : Bracket) (below : List Bracket) (target : Target)
    (taken : Nat) : Read :=
  let content := resolveEmphasis s.pieces.reverse
  let node :=
    if b.image then Inline.image target.destination target.title content
    else .link target.destination target.title content
  ⟨{ s with
      pieces := .inline node :: b.before
      brackets := below
      noLinks := !b.image || s.noLinks
      afterBreak := false },
    1 + taken⟩

/-- The target that stands in parentheses behind a bracket, and what
follows it. -/
def inlineTarget? (text : Text) : Option (Target × Text) :=
  match text with
  | '(' :: rest => do
    let (destination, rest) ← destination? (trimLeft rest)
    let (title, rest) :=
      match rest.head?.any isSpacing, title? (trimLeft rest) with
      | true, some (title, after) => (title, trimLeft after)
      | _, _ => ([], trimLeft rest)
    match rest with
    | ')' :: rest => some (⟨resolveDestination destination, resolveEscapes title⟩, rest)
    | _ => none
  | _ => none

/-- The target of a label. Looking one up may use up what references are
allowed to insert. -/
def lookUp (refs : References) (budget : Budget) (label : Text) : Budget × Option Target :=
  match refs.targets.get? (labelKey label) with
  | none => (budget, none)
  | some target =>
    let spent := budget.spent + Utf8.size target.destination + Utf8.size target.title
    ({ budget with spent }, if budget.limit < spent then none else some target)

/-- The label that a closing bracket at `position` refers to, and what
follows it: the one behind it, or else the text in the bracket `b`. -/
def referredLabel? (b : Bracket) (position : Nat) (rest : Text) : Option (Text × Text) :=
  let own := b.inside.take (position - b.position)
  match label? rest with
  | some (label, after) =>
    if label = [] && !b.holdsBracket then some (own, after) else some (label, after)
  | none => if b.holdsBracket then none else some (own, rest)

/-- Reads a closing bracket at `position`. -/
def readClosing (refs : References) (s : Scan) (position : Nat) (rest : Text) : Read :=
  match s.brackets with
  | [] => s.readChar ']'
  | b :: below =>
    if !b.image && s.noLinks then s.leaveBracket b below
    else match inlineTarget? rest with
      | some (target, after) => s.closeBracket b below target (consumed rest after)
      | none =>
        match referredLabel? b position rest with
        | none => s.leaveBracket b below
        | some (label, after) =>
          let (budget, found) := lookUp refs s.budget label
          let s := { s with budget }
          match found with
          | some target => s.closeBracket b below target (consumed rest after)
          | none => s.leaveBracket b below

/-! ### All of it -/

/-- Reads one piece of markup, the first character of which is `c` and
stands at `position`. `back` is what stands before it, in reverse. -/
def readOne (refs : References) (s : Scan) (back : Text) (position : Nat) (c : Char)
    (rest : Text) : Read :=
  if !isSpecial c then s.readText (c :: rest)
  else if c = '\n' then s.readLineFeed back rest
  else if c = '\x60' then s.readBackticks (c :: rest)
  else if c = '\\' then s.readBackslash rest
  else if c = '&' then s.readReference rest
  else if c = '<' then s.readAngle rest
  else if c = '*' || c = '_' then s.readRun c back (c :: rest)
  else if c = '[' then s.openBracket false (position + 1) rest
  else if c = ']' then readClosing refs s position rest
  else
    match c, rest with
    | '!', '[' :: inside =>
      if inside.head? = some '^' then s.readChar c
      else s.openBracket true (position + 2) inside
    | _, _ => s.readChar c

/-- Reads all of a text; every step takes at least one character. -/
def readAll (refs : References) (s : Scan) (back : Text) (position : Nat) (text : Text) : Scan :=
  match text with
  | [] => s
  | c :: rest =>
    let read := readOne refs s back position c rest
    let more := read.taken - 1
    readAll refs read.scan ((rest.take more).reverseAux (c :: back)) (position + 1 + more)
      (rest.drop more)
termination_by text.length
decreasing_by simp only [List.length_drop, List.length_cons]; omega

/-- The pieces in order, where brackets that are still open are text. -/
def allPieces (s : Scan) : List Piece :=
  (s.brackets.foldl
    (fun pieces b => pieces ++ .inline (.text b.written) :: b.before)
    s.pieces).reverse

end Scan

/-- The markup in the content of a paragraph or heading. -/
def readInlines (refs : References) (budget : Budget) (text : Text) : List Inline × Budget :=
  let s := (Scan.start budget).readAll refs [] 0 (trimRight text)
  (resolveEmphasis s.allPieces, s.budget)

end Marginalia.Markdown
