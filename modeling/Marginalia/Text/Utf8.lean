import Marginalia.Text.Basic

/-!
# `Marginalia.Text.Utf8`: texts as bytes

Files and processes deal in bytes. `encode` writes a text as UTF-8;
`decode?` reads bytes back and refuses whatever is not UTF-8; and
`decodeLossy` reads any bytes at all, putting one replacement character
where a maximal beginning of a sequence is left unfinished.
-/

set_option autoImplicit false

namespace Marginalia

/-- A run of bytes. -/
abbrev Bytes := List UInt8

namespace Utf8

/-- The character put where bytes cannot be read. -/
def replacement : Char := '\uFFFD'

/-- The bytes of one character. -/
def encodeChar (c : Char) : Bytes :=
  let n := c.toNat
  if n < 0x80 then [n.toUInt8]
  else if n < 0x800 then [(0xC0 + n / 64).toUInt8, (0x80 + n % 64).toUInt8]
  else if n < 0x10000 then
    [(0xE0 + n / 4096).toUInt8, (0x80 + n / 64 % 64).toUInt8, (0x80 + n % 64).toUInt8]
  else
    [(0xF0 + n / 262144).toUInt8, (0x80 + n / 4096 % 64).toUInt8,
      (0x80 + n / 64 % 64).toUInt8, (0x80 + n % 64).toUInt8]

/-- The bytes of a text. -/
def encode (text : Text) : Bytes :=
  text.flatMap encodeChar

/-- The number of bytes a text takes. -/
def size (text : Text) : Nat :=
  text.foldl (fun n c => n + c.utf8Size) 0

/-- What a first byte asks of the bytes after it: how many there are,
the bounds of the next one, and the bits that it gives itself. -/
structure Lead where
  more : Nat
  low : Nat
  high : Nat
  bits : Nat

/-- The lead a byte is, if a sequence of several bytes can begin with it.
The bounds leave out overlong forms, surrogates and what lies past the
last code point. -/
def lead? (b : UInt8) : Option Lead :=
  let n := b.toNat
  if 0xC2 ≤ n && n ≤ 0xDF then some ⟨1, 0x80, 0xBF, n - 0xC0⟩
  else if n = 0xE0 then some ⟨2, 0xA0, 0xBF, 0⟩
  else if n = 0xED then some ⟨2, 0x80, 0x9F, 0xD⟩
  else if 0xE1 ≤ n && n ≤ 0xEF then some ⟨2, 0x80, 0xBF, n - 0xE0⟩
  else if n = 0xF0 then some ⟨3, 0x90, 0xBF, 0⟩
  else if 0xF1 ≤ n && n ≤ 0xF3 then some ⟨3, 0x80, 0xBF, n - 0xF0⟩
  else if n = 0xF4 then some ⟨3, 0x80, 0x8F, 4⟩
  else none

/-- Where reading stands: between characters, or inside a sequence that
still wants `more` bytes, the next of them within bounds. -/
inductive Reading
  | between
  | inside (more low high bits : Nat)

/-- What reading one byte yields: the characters that are now known, each
marked with whether the bytes really spelled it, and where reading stands
afterwards. -/
structure Step where
  found : List (Bool × Char)
  next : Reading

/-- Reads a byte that begins a character. -/
def begin (b : UInt8) : Step :=
  if b.toNat < 0x80 then ⟨[(true, Char.ofNat b.toNat)], .between⟩
  else match lead? b with
    | some l => ⟨[], .inside l.more l.low l.high l.bits⟩
    | none => ⟨[(false, replacement)], .between⟩

/-- Reads one byte. A byte that does not fit the sequence before it ends
that sequence unfinished and begins anew. -/
def step : Reading → UInt8 → Step
  | .between, b => begin b
  | .inside more low high bits, b =>
    if low ≤ b.toNat && b.toNat ≤ high then
      let bits := bits * 64 + b.toNat % 64
      if more ≤ 1 then ⟨[(true, Char.ofNat bits)], .between⟩
      else ⟨[], .inside (more - 1) 0x80 0xBF bits⟩
    else
      let again := begin b
      ⟨(false, replacement) :: again.found, again.next⟩

/-- The characters of the bytes, last first, and where reading stands. -/
def read (bytes : Bytes) : List (Bool × Char) × Reading :=
  bytes.foldl
    (fun (found, reading) b =>
      let s := step reading b
      (s.found.reverse ++ found, s.next))
    ([], .between)

/-- The characters of the bytes in order, each marked with whether the
bytes really spelled it. -/
def readAll (bytes : Bytes) : List (Bool × Char) :=
  match read bytes with
  | (found, .between) => found.reverse
  | (found, .inside ..) => ((false, replacement) :: found).reverse

/-- The text that the bytes spell, if they are UTF-8 throughout. -/
def decode? (bytes : Bytes) : Option Text :=
  let found := readAll bytes
  if found.all (·.1) then some (found.map (·.2)) else none

/-- The text of any bytes, with replacement characters where they do not
spell one. -/
def decodeLossy (bytes : Bytes) : Text :=
  (readAll bytes).map (·.2)

end Utf8

end Marginalia
