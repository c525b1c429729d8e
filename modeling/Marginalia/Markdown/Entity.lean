import Std.Data.HashMap
import Marginalia.Markdown.Chars
import Marginalia.Markdown.EntityTable
import Marginalia.Text.Utf8
import Marginalia.Unicode.Ranges

/-!
# `Marginalia.Markdown.Entity`: characters written as references

Between `&` and `;` a character can be given by its number, in decimal
or hexadecimal digits, or by a name. A number that is no character, or
that is too long, is not left out: it stands for the replacement
character or for itself as text.
-/

set_option autoImplicit false

namespace Marginalia.Markdown

open Unicode (hexDigit? ofHex)

/-- The named characters by their names. -/
def entities : Std.HashMap String Text :=
  (Text.words entityTable).foldl
    (fun found entry =>
      match Text.splitOn '=' entry with
      | [name, written] =>
        found.insert (String.ofList name)
          ((Text.splitOn '+' written).map fun digits => Char.ofNat (ofHex digits))
      | _ => found)
    ∅

/-- The character with a number; the replacement character for 0 and for
numbers that no character has. -/
def charOfNumber (n : Nat) : Char :=
  if n = 0 || 0x110000 ≤ n || (0xD800 ≤ n && n < 0xE000) then Utf8.replacement else Char.ofNat n

/-- A reference by number, whose digits begin the text, and what follows
its semicolon. -/
def numberedChar? (isDigit : Char → Bool) (base limit : Nat) (text : Text) :
    Option (Text × Text) :=
  let digits := text.takeWhile isDigit
  match text.dropWhile isDigit with
  | ';' :: rest =>
    if 1 ≤ digits.length && digits.length ≤ limit then
      let n := digits.foldl (fun n c => n * base + (hexDigit? c).getD 0) 0
      some ([charOfNumber n], rest)
    else none
  | _ => none

/-- The longest name that stands for a character. -/
def longestName : Nat := 31

/-- A reference by name, which begins the text, and what follows its
semicolon. -/
def namedChar? (text : Text) : Option (Text × Text) :=
  let name := (text.take (longestName + 1)).takeWhile (· != ';')
  match text.drop name.length with
  | ';' :: rest =>
    if name.length < 2 || name.contains ' ' then none
    else (entities[String.ofList name]?).map (·, rest)
  | _ => none

/-- What a reference stands for, and what follows it. `text` is what
follows the `&`. -/
def reference? (text : Text) : Option (Text × Text) :=
  match text with
  | '#' :: 'x' :: rest => numberedChar? (fun c => (hexDigit? c).isSome) 16 6 rest
  | '#' :: 'X' :: rest => numberedChar? (fun c => (hexDigit? c).isSome) 16 6 rest
  | '#' :: rest => numberedChar? Char.isDigit 10 7 rest
  | _ => namedChar? text

/-- The text behind `done`, in reverse, with its references replaced;
`fuel` bounds the number of steps. -/
def dropReferencesOnto : (fuel : Nat) → (done text : Text) → Text
  | 0, done, text => done.reverseAux text
  | _, done, [] => done.reverse
  | fuel + 1, done, c :: rest =>
    if c = '&' then
      match reference? rest with
      | some (found, rest) => dropReferencesOnto fuel (found.reverseAux done) rest
      | none => dropReferencesOnto fuel (c :: done) rest
    else dropReferencesOnto fuel (c :: done) rest

/-- A text with its references replaced by what they stand for. -/
def dropReferences (text : Text) : Text :=
  dropReferencesOnto text.length [] text

/-- A text with its references and then its escapes resolved. -/
def resolveEscapes (text : Text) : Text :=
  dropBackslashes (dropReferences text)

end Marginalia.Markdown
