import Marginalia.Text.Blank
import Marginalia.Text.Lines

/-!
# `Marginalia.Unicode.Ranges`: sets of characters by their code points

A property of characters is given as a table of ranges of code points,
in ascending order, written in hexadecimal and separated by blanks:
`41-5A` is a range and `AA` a single code point. Membership is decided by bisection.
-/

set_option autoImplicit false

namespace Marginalia.Unicode

/-- The value of a hexadecimal digit. -/
def hexDigit? (c : Char) : Option Nat :=
  if '0' ≤ c && c ≤ '9' then some (c.toNat - '0'.toNat)
  else if 'a' ≤ c && c ≤ 'f' then some (c.toNat - 'a'.toNat + 10)
  else if 'A' ≤ c && c ≤ 'F' then some (c.toNat - 'A'.toNat + 10)
  else none

/-- The number that hexadecimal digits spell. -/
def ofHex (digits : Text) : Nat :=
  digits.foldl (fun n c => n * 16 + (hexDigit? c).getD 0) 0

/-- Ranges of code points in ascending order, both ends included. -/
structure Ranges where
  bounds : Array (Nat × Nat)

namespace Ranges

/-- The range that `41-5A` or `AA` stands for. -/
def readRange (written : Text) : Nat × Nat :=
  match Text.splitOn '-' written with
  | [low, high] => (ofHex low, ofHex high)
  | _ => (ofHex written, ofHex written)

/-- A table of ranges, read from its written form. -/
def ofText (written : Text) : Ranges :=
  ⟨((Text.words written).map readRange).toArray⟩

/-- Looks for `n` among the ranges from `low` up to `high`; `fuel` bounds
the number of halvings. -/
def search (ranges : Ranges) (n : Nat) : (fuel low high : Nat) → Bool
  | 0, _, _ => false
  | fuel + 1, low, high =>
    if high ≤ low then false
    else
      let mid := (low + high) / 2
      match ranges.bounds[mid]? with
      | none => false
      | some (first, last) =>
        if n < first then search ranges n fuel low mid
        else if last < n then search ranges n fuel (mid + 1) high
        else true

/-- Whether a character lies in one of the ranges. -/
def contains (ranges : Ranges) (c : Char) : Bool :=
  search ranges c.toNat (ranges.bounds.size + 1) 0 ranges.bounds.size

end Ranges

end Marginalia.Unicode
