import Marginalia.Text.Basic

/-!
# `Marginalia.Markdown.Chars`: the character classes of Markdown

Markdown's block structure and most of its markup know ASCII only. These
are the classes that its rules are stated in.
-/

set_option autoImplicit false

namespace Marginalia.Markdown

/-- A space or a tab. -/
def isSpaceOrTab (c : Char) : Bool :=
  c = ' ' || c = '\t'

/-- White space within ASCII, line ends included. -/
def isSpacing (c : Char) : Bool :=
  c = ' ' || (9 ≤ c.toNat && c.toNat ≤ 13)

/-- A control character of ASCII. -/
def isControl (c : Char) : Bool :=
  c.toNat < 32 || c.toNat = 127

/-- Punctuation of ASCII. -/
def isMark (c : Char) : Bool :=
  let n := c.toNat
  (33 ≤ n && n ≤ 47) || (58 ≤ n && n ≤ 64) || (91 ≤ n && n ≤ 96) || (123 ≤ n && n ≤ 126)

/-- A letter of ASCII in lower case; every other character as it is. -/
def lower (text : Text) : Text :=
  text.map Char.toLower

/-- A text without white space in front. -/
def trimLeft (text : Text) : Text :=
  text.dropWhile isSpacing

/-- A text without white space behind. -/
def trimRight (text : Text) : Text :=
  (text.reverse.dropWhile isSpacing).reverse

/-- A text without white space around. -/
def trimBoth (text : Text) : Text :=
  trimRight (trimLeft text)

/-- A text without spaces and tabs in front. -/
def skipSpaces (text : Text) : Text :=
  text.dropWhile isSpaceOrTab

/-- A text whose escaped marks have lost their backslashes. -/
def dropBackslashes : Text → Text
  | '\\' :: c :: rest =>
    if isMark c then c :: dropBackslashes rest else '\\' :: dropBackslashes (c :: rest)
  | c :: rest => c :: dropBackslashes rest
  | [] => []
termination_by text => text.length

/-- How many characters of `text` stand before its ending `rest`. -/
def consumed (text rest : Text) : Nat :=
  text.length - rest.length

end Marginalia.Markdown
