import Marginalia.Text.Basic

/-!
# `Marginalia.Text.Escape`: text inside markup

Characters that markup would read as its own are written as references.
Element content escapes `&`, `<` and `>`; a double-quoted attribute value
escapes the double quote too.
-/

set_option autoImplicit false

namespace Marginalia.Text

/-- The written form of one character of element content. -/
def escapeChar (c : Char) : Text :=
  if c = '&' then "&amp;"
  else if c = '<' then "&lt;"
  else if c = '>' then "&gt;"
  else [c]

/-- The written form of one character of a double-quoted attribute value. -/
def escapeQuotedChar (c : Char) : Text :=
  if c = '"' then "&quot;" else escapeChar c

/-- A text as element content. -/
def escape (text : Text) : Text :=
  text.flatMap escapeChar

/-- A text as a double-quoted attribute value. -/
def escapeQuoted (text : Text) : Text :=
  text.flatMap escapeQuotedChar

end Marginalia.Text
