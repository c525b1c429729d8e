import Marginalia.Segment.Grammar

/-!
# `Marginalia.Segment.Signature`: the function a docblock is about

A line holds a function signature when the word `function`, then at least
one blank, a name and an opening parenthesis stand somewhere in it. A
docblock is about the first signature in the lines after its opening,
unless another docblock opens before.
-/

set_option autoImplicit false

namespace Marginalia.Segment

open Marginalia.Language (Profile)

/-- Whether a character can stand in the name of a function. -/
def isNameChar (c : Char) : Bool :=
  !isBlank c && c != '('

/-- The name that a signature beginning here gives. -/
def signatureHere? (text : Text) : Option Text :=
  match Text.after? "function" text with
  | none => none
  | some rest =>
    let spaced := Text.trimStart rest
    let name := spaced.takeWhile isNameChar
    match Text.trimStart (spaced.dropWhile isNameChar) with
    | '(' :: _ => if spaced.length < rest.length && name != [] then some name else none
    | _ => none

/-- The name in the leftmost signature of a line. -/
def signature? : (line : Text) → Option Text
  | [] => none
  | c :: line => (signatureHere? (c :: line)).or (signature? line)

/-- The function that a docblock opened just before `lines` is about. -/
def documented? (profile : Profile) : (lines : List Text) → Option Text
  | [] => none
  | line :: rest =>
    match signature? line with
    | some name => some name
    | none => if opensDocblock profile line then none else documented? profile rest

/-- The label that stands for the opening of a docblock about `name`. -/
def label (name : Text) : Text :=
  "**\x60 " ++ name ++ "\x60**\n\n "

end Marginalia.Segment
