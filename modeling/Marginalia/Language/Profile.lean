import Marginalia.Text.Blank
import Marginalia.Text.Escape
import Marginalia.Text.Lines

/-!
# `Marginalia.Language.Profile`: how a language writes comments

A profile names the lexer of a language and the symbols that its line
comments begin with. It also fixes the sentinel, the comment line put
between two sections' code so that they can be told apart again after
highlighting. A profile always has a name and at least one symbol, and
none of these is blank: `Profile.ofDeclaration` refuses the rest.

The sentinel is found again by a pattern, which is compiled when the
profile is made. Which patterns a compiler refuses is its own affair, as a
limit on their size is, so `Patterns` is a parameter.
-/

set_option autoImplicit false

namespace Marginalia.Language

/-- A profile as a user writes it down, not yet checked. -/
structure Declaration where
  name : Text
  symbols : List Text
deriving DecidableEq

/-- A compiler of patterns. For the comment that a pattern looks for it has
the reason why it refuses the pattern, if it does. -/
class Patterns where
  refusal? : (comment : Text) → Option Text

/-- The compiler that refuses nothing. It is meant where no other is
given. -/
instance (priority := low) Patterns.unlimited : Patterns :=
  ⟨fun _ => none⟩

/-- Why a language is not known or not accepted. -/
inductive Error
  | unsupported (extension file : Text)
  | emptyName
  | noSymbols (name : Text)
  | emptySymbol (name : Text)
  | pattern (reason : Text)
deriving DecidableEq

/-- The wording of an error. -/
def Error.message : Error → Text
  | .unsupported extension file =>
    "could not determine language for extension '." ++ extension ++ "' (" ++ file ++ ")"
  | .emptyName => "language profile has an empty lexer name"
  | .noSymbols name => "language profile '" ++ name ++ "' declares no comment symbols"
  | .emptySymbol name => "language profile '" ++ name ++ "' declares an empty comment symbol"
  | .pattern reason => "invalid divider pattern: " ++ reason

/-- The errors behind an error. -/
def Error.causes : Error → List Text
  | .pattern reason => [reason]
  | _ => []

/-- An accepted language: its lexer name and its comment symbols, in the
order in which they are tried. -/
structure Profile where
  name : Text
  symbols : List Text
  named : name.allBlank = false
  hasSymbol : symbols ≠ []
  visible : ∀ s ∈ symbols, s.allBlank = false
deriving DecidableEq

namespace Profile

/-- The word after the comment symbol of a sentinel. -/
def marker : Text := "DIVIDER"

/-- The sentinel with the symbol `first` as it stands in marked-up code. -/
def markedSentinel (first : Text) : Text :=
  Text.escape first ++ marker

/-- Accepts a declaration whose name and symbols are all visible, and whose
sentinel makes a pattern. -/
def ofDeclaration [Patterns] (d : Declaration) : Except Error Profile :=
  if named : d.name.allBlank = false then
    if hasSymbol : d.symbols ≠ [] then
      if visible : ∀ s ∈ d.symbols, s.allBlank = false then
        match Patterns.refusal? (markedSentinel (d.symbols.head hasSymbol)) with
        | some reason => .error (.pattern reason)
        | none => .ok ⟨d.name, d.symbols, named, hasSymbol, visible⟩
      else .error (.emptySymbol d.name)
    else .error (.noSymbols d.name)
  else .error .emptyName

/-- The symbol that the sentinel is written with. -/
def firstSymbol (profile : Profile) : Text :=
  profile.symbols.head profile.hasSymbol

/-- The line that separates the code of two sections. -/
def sentinel (profile : Profile) : Text :=
  profile.firstSymbol ++ marker

/-- What is written after every section's code: the sentinel on a line
of its own. -/
def dividerToken (profile : Profile) : Text :=
  '\n' :: profile.sentinel ++ ['\n']

end Profile

end Marginalia.Language
