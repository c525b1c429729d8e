import Marginalia.Unicode.Invisible

/-!
# `Marginalia.Text.Quoted`: a text between double quotes

Values in log records are written between double quotes. The quote, the
backslash and a few controls have short escapes; every other character
that leaves no mark of its own is written by its code point.
-/

set_option autoImplicit false

namespace Marginalia.Text

/-- The written form of a character between double quotes. -/
def quoteChar (c : Char) : Text :=
  if c = '"' then "\\\""
  else if c = '\\' then "\\\\"
  else if c = '\n' then "\\n"
  else if c = '\r' then "\\r"
  else if c = '\t' then "\\t"
  else if c.toNat = 0 then "\\0"
  else if Unicode.isInvisible c then
    "\\u\x7b" ++ Nat.toDigits 16 c.toNat ++ "\x7d"
  else [c]

/-- A text between double quotes. -/
def quoted (text : Text) : Text :=
  '"' :: text.flatMap quoteChar ++ ['"']

end Marginalia.Text
