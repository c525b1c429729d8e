import Marginalia.Language.Profile

/-!
# `Marginalia.Segment.Grammar`: which lines are documentation

A line is documentation when, blanks in front aside, it begins with
`/**` (it opens a docblock), with `*` (it continues one) or with one of
the language's comment symbols. The first of these that fits decides.
Every other line is code.
-/

set_option autoImplicit false

namespace Marginalia.Segment

open Marginalia.Language (Profile)

/-- The three ways in which a line is documentation. -/
inductive DocLine
  | opening
  | continuation
  | comment
deriving DecidableEq

/-- The beginnings that make a line documentation, in the order in which
they are tried. -/
def leads (profile : Profile) : List (DocLine × Text) :=
  (.opening, "/**") :: (.continuation, "*") :: profile.symbols.map (.comment, ·)

/-- How a line is documentation, with its text after the beginning that
says so; nothing for a line of code. -/
def classify? (profile : Profile) (line : Text) : Option (DocLine × Text) :=
  (leads profile).findSome? fun (kind, lead) =>
    (Text.after? lead (Text.trimStart line)).map (kind, ·)

/-- Whether the line opens a docblock. -/
def opensDocblock (profile : Profile) (line : Text) : Bool :=
  (classify? profile line).any (·.1 = .opening)

/-- Whether a documentation line ends its docblock: a continuation with
nothing but a slash. -/
def closes (kind : DocLine) (rest : Text) : Bool :=
  kind = .continuation && Text.trimEnd rest = "/"

end Marginalia.Segment
