import Marginalia.Text.Basic

/-!
# `Marginalia.Text.Blank`: white space

A character is blank when it has the property White_Space, and trimming
takes blanks off either end of a text.
-/

set_option autoImplicit false

namespace Marginalia

/-- The characters with the property White_Space. -/
def isBlank (c : Char) : Bool :=
  let n := c.toNat
  (9 ≤ n && n ≤ 13) || n == 0x20 || n == 0x85 || n == 0xA0 || n == 0x1680
    || (0x2000 ≤ n && n ≤ 0x200A) || n == 0x2028 || n == 0x2029 || n == 0x202F
    || n == 0x205F || n == 0x3000

namespace Text

/-- The text without the blanks in front of it. -/
def trimStart (text : Text) : Text :=
  text.dropWhile isBlank

/-- The text without the blanks behind it. -/
def trimEnd (text : Text) : Text :=
  (text.reverse.dropWhile isBlank).reverse

/-- The text without the blanks around it. -/
def trim (text : Text) : Text :=
  trimEnd (trimStart text)

/-- Whether the text holds nothing but blanks. -/
def allBlank (text : Text) : Bool :=
  text.all isBlank

/-- The leading run of characters that are not blank, and the rest. -/
def cutWord (text : Text) : Text × Text :=
  (text.takeWhile (!isBlank ·), text.dropWhile (!isBlank ·))

/-- The longest runs of characters that are not blank, in order. -/
def words (text : Text) : List Text :=
  let (word, found) := text.foldr
    (fun c (word, found) =>
      if isBlank c then ([], if word = [] then found else word :: found)
      else (c :: word, found))
    ([], [])
  if word = [] then found else word :: found

theorem cutWord_append (text : Text) : (cutWord text).1 ++ (cutWord text).2 = text :=
  List.takeWhile_append_dropWhile

end Text

end Marginalia
