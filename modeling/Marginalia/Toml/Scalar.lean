import Marginalia.Text.Blank
import Marginalia.Text.Lines
import Marginalia.Toml.Value
import Marginalia.Unicode.Ranges

/-!
# `Marginalia.Toml.Scalar`: strings, numbers, dates and keys

Readers for the parts of a document that hold no others. Each looks at
the beginning of a text and answers with what it read and what follows.
-/

set_option autoImplicit false

namespace Marginalia.Toml

open Unicode (hexDigit? ofHex)

/-! ### White space -/

/-- A space or a tab. -/
def isGap (c : Char) : Bool :=
  c = ' ' || c = '\t'

/-- What follows spaces and tabs. -/
def skipGap (text : Text) : Text :=
  text.dropWhile isGap

/-- What follows a line end. -/
def afterLineEnd? : (text : Text) → Option Text
  | '\n' :: rest => some rest
  | '\r' :: '\n' :: rest => some rest
  | _ => none

/-- Whether a character can stand in comments and strings: no control
character but the tab. -/
def isPlain (c : Char) : Bool :=
  c = '\t' || (0x20 ≤ c.toNat && c.toNat != 0x7F)

/-- What follows a comment, if there is one; its line end is left. -/
def skipComment (text : Text) : Text :=
  match text with
  | '#' :: rest => rest.dropWhile isPlain
  | _ => text

/-- What follows the rest of a line that holds nothing but a comment. -/
def endLine? (text : Text) : Option Text :=
  match skipComment (skipGap text) with
  | [] => some []
  | rest => afterLineEnd? rest

/-! ### Strings -/

/-- The character that hexadecimal digits stand for. -/
def codePoint? (digits : Text) : Option Char :=
  let n := ofHex digits
  if digits.all (fun c => (hexDigit? c).isSome) && (n < 0xD800 || (0xE000 ≤ n && n < 0x110000)) then
    some (Char.ofNat n)
  else none

/-- The character that an escape stands for, `c` being what follows the
backslash. -/
def escape? (c : Char) : Option Char :=
  if c = 'b' then some '\x08'
  else if c = 't' then some '\t'
  else if c = 'n' then some '\n'
  else if c = 'f' then some '\x0c'
  else if c = 'r' then some '\r'
  else if c = '"' || c = '\\' then some c
  else none

/-- Reads an escape, whose backslash stands before the text. -/
def readEscape? (text : Text) : Option (Char × Text) :=
  match text with
  | 'u' :: rest => if rest.length < 4 then none else (codePoint? (rest.take 4)).map (·, rest.drop 4)
  | 'U' :: rest => if rest.length < 8 then none else (codePoint? (rest.take 8)).map (·, rest.drop 8)
  | c :: rest => (escape? c).map (·, rest)
  | [] => none

/-- Reads a string on one line up to its double quote; `fuel` bounds its
length. -/
def basicOnto? : (fuel : Nat) → (done text : Text) → Option (Text × Text)
  | 0, _, _ => none
  | _, _, [] => none
  | fuel + 1, done, c :: rest =>
    if c = '"' then some (done.reverse, rest)
    else if c = '\\' then
      match readEscape? rest with
      | some (d, rest) => basicOnto? fuel (d :: done) rest
      | none => none
    else if isPlain c then basicOnto? fuel (c :: done) rest
    else none

/-- Reads a literal string on one line up to its quote. -/
def literalOnto? (done : Text) : (text : Text) → Option (Text × Text)
  | [] => none
  | c :: rest =>
    if c = '\'' then some (done.reverse, rest)
    else if isPlain c then literalOnto? (c :: done) rest
    else none

/-- What follows a backslash at the end of a line: all white space up to
the next character. -/
def afterContinuation? (text : Text) : Option Text :=
  (afterLineEnd? (skipGap text)).map fun rest =>
    rest.dropWhile fun c => isGap c || c = '\n' || c = '\r'

/-- Reads a string of several lines up to its three quotes. Up to two
quotes more belong to it. Only a string in double quotes has escapes.
`fuel` bounds its length. -/
def linesOnto? (quote : Char) : (fuel : Nat) → (done text : Text) → Option (Text × Text)
  | 0, _, _ => none
  | fuel + 1, done, text =>
    match text with
    | [] => none
    | c :: rest =>
      if c = quote then
        let quotes := (text.takeWhile (· = quote)).take 5
        let rest := text.drop quotes.length
        if quotes.length < 3 then linesOnto? quote fuel (quotes ++ done) rest
        else some ((quotes.drop 3 ++ done).reverse, rest)
      else if c = '\\' && quote = '"' then
        match afterContinuation? rest, readEscape? rest with
        | some rest, _ => linesOnto? quote fuel done rest
        | none, some (d, rest) => linesOnto? quote fuel (d :: done) rest
        | none, none => none
      else
        match afterLineEnd? text with
        | some rest => linesOnto? quote fuel ('\n' :: done) rest
        | none => if isPlain c then linesOnto? quote fuel (c :: done) rest else none

/-- A text without the line end that begins it. -/
def dropLineEnd (text : Text) : Text :=
  (afterLineEnd? text).getD text

/-- Reads a string. -/
def string? (text : Text) : Option (Text × Text) :=
  match text with
  | '"' :: '"' :: '"' :: rest => linesOnto? '"' (rest.length + 1) [] (dropLineEnd rest)
  | '\'' :: '\'' :: '\'' :: rest => linesOnto? '\'' (rest.length + 1) [] (dropLineEnd rest)
  | '"' :: rest => basicOnto? (rest.length + 1) [] rest
  | '\'' :: rest => literalOnto? [] rest
  | _ => none

/-! ### Keys -/

/-- Whether a character can stand in a key without quotes. -/
def isBare (c : Char) : Bool :=
  c.isAlphanum || c = '-' || c = '_'

/-- Reads one part of a key. -/
def keyPart? (text : Text) : Option (Text × Text) :=
  match text with
  | '"' :: rest => basicOnto? (rest.length + 1) [] rest
  | '\'' :: rest => literalOnto? [] rest
  | _ =>
    let bare := text.takeWhile isBare
    if bare = [] then none else some (bare, text.drop bare.length)

/-- Reads the parts of a key, which have dots between them; `fuel` bounds
their number. -/
def keyOnto? : (fuel : Nat) → (done : List Text) → (text : Text) → Option (List Text × Text)
  | 0, _, _ => none
  | fuel + 1, done, text => do
    let (part, rest) ← keyPart? (skipGap text)
    match skipGap rest with
    | '.' :: rest => keyOnto? fuel (part :: done) rest
    | rest => some ((part :: done).reverse, rest)

/-- Reads a key: its parts, and what follows it and spaces. -/
def key? (text : Text) : Option (List Text × Text) :=
  keyOnto? (text.length + 1) [] text

/-! ### Numbers and dates -/

/-- The digits of a number, if single underscores stand only between
two of them. -/
def digits? (isDigit : Char → Bool) (written : Text) : Option Text :=
  let groups := Text.splitOn '_' written
  if groups.all (fun group => group != [] && group.all isDigit) then some groups.flatten else none

/-- The number that digits spell. -/
def ofDigits (base : Nat) (digits : Text) : Nat :=
  digits.foldl (fun n c => n * base + (hexDigit? c).getD 0) 0

/-- The integer, if it fits into 64 bits. -/
def bounded? (n : Int) : Option Int :=
  if -0x8000000000000000 ≤ n && n < 0x8000000000000000 then some n else none

/-- The sign of a number, and what follows it. -/
def sign (written : Text) : Int × Text :=
  match written with
  | '+' :: rest => (1, rest)
  | '-' :: rest => (-1, rest)
  | _ => (1, written)

/-- Decimal digits without a superfluous zero in front. -/
def wholeDigits? (written : Text) : Option Text :=
  match digits? Char.isDigit written with
  | some digits => if digits.head? = some '0' && 1 < written.length then none else some digits
  | none => none

/-- The integer that is written. -/
def integer? (written : Text) : Option Int :=
  let based (base : Nat) (isDigit : Char → Bool) (rest : Text) : Option Int :=
    (digits? isDigit rest).bind fun digits => bounded? (ofDigits base digits)
  match written with
  | '0' :: 'x' :: rest => based 16 (fun c => (hexDigit? c).isSome) rest
  | '0' :: 'o' :: rest => based 8 (fun c => '0' ≤ c && c ≤ '7') rest
  | '0' :: 'b' :: rest => based 2 (fun c => c = '0' || c = '1') rest
  | _ =>
    let (s, rest) := sign written
    (wholeDigits? rest).bind fun digits => bounded? (s * ofDigits 10 digits)

/-- Whether a number with a fraction or an exponent is written. -/
def isFloat (written : Text) : Bool :=
  let rest := (sign written).2
  if rest = "inf" || rest = "nan" then true
  else
    let mantissa := rest.takeWhile fun c => c != 'e' && c != 'E'
    let exponent := (rest.drop mantissa.length).drop 1
    let exponentFine := mantissa.length = rest.length
      || (digits? Char.isDigit (sign exponent).2).isSome
    match Text.splitOn '.' mantissa with
    | [whole] => mantissa.length < rest.length && (wholeDigits? whole).isSome && exponentFine
    | [whole, fraction] =>
      (wholeDigits? whole).isSome && (digits? Char.isDigit fraction).isSome && exponentFine
    | _ => false

/-- Whether `written` has `n` decimal digits that make a number from `low`
to `high`. -/
def isField (n low high : Nat) (written : Text) : Bool :=
  written.length = n && written.all Char.isDigit
    && low ≤ ofDigits 10 written && ofDigits 10 written ≤ high

/-- The number of days of a month. -/
def daysIn (year month : Nat) : Nat :=
  let isLeap := year % 4 = 0 && (year % 100 != 0 || year % 400 = 0)
  if month = 2 then (if isLeap then 29 else 28)
  else if month = 4 || month = 6 || month = 9 || month = 11 then 30
  else 31

/-- Whether a day is written. -/
def isDay (written : Text) : Bool :=
  match Text.splitOn '-' written with
  | [year, month, day] =>
    isField 4 0 9999 year && isField 2 1 12 month
      && isField 2 1 (daysIn (ofDigits 10 year) (ofDigits 10 month)) day
  | _ => false

/-- Whether a time of day is written. -/
def isTime (written : Text) : Bool :=
  match Text.splitOn ':' written with
  | [hour, minute, second] =>
    let whole := second.take 2
    let fraction := second.drop 2
    isField 2 0 23 hour && isField 2 0 59 minute && isField 2 0 60 whole
      && (fraction = [] || (fraction.head? = some '.' && 1 < fraction.length
        && (fraction.drop 1).all Char.isDigit))
  | _ => false

/-- Whether an offset from universal time is written. -/
def isOffset (written : Text) : Bool :=
  match written with
  | [] => true
  | ['Z'] => true
  | ['z'] => true
  | c :: rest =>
    match Text.splitOn ':' rest with
    | [hour, minute] => (c = '+' || c = '-') && isField 2 0 23 hour && isField 2 0 59 minute
    | _ => false

/-- Whether a day, a time, or both are written. -/
def isDate (written : Text) : Bool :=
  let rest := written.drop 10
  let clock := (rest.drop 1).takeWhile fun c => c.isDigit || c = ':' || c = '.'
  isTime written
    || (isDay (written.take 10)
      && (rest = [] || (rest.head?.any (fun c => c = 'T' || c = 't' || c = ' ')
        && isTime clock && isOffset ((rest.drop 1).drop clock.length))))

/-- Whether a character can stand in a number, a date or a word. -/
def isWordChar (c : Char) : Bool :=
  c.isAlphanum || c = '_' || c = '+' || c = '-' || c = '.' || c = ':'

/-- The number, date or word that begins a text. A space may stand between
a day and a time. -/
def word (text : Text) : Text :=
  let first := text.takeWhile isWordChar
  let rest := text.drop first.length
  match rest with
  | ' ' :: c :: _ =>
    if isDay first && c.isDigit then first ++ ' ' :: (rest.drop 1).takeWhile isWordChar else first
  | _ => first

/-- Reads a number, a date or a truth value. -/
def plainScalar? (text : Text) : Option (Value × Text) :=
  let written := word text
  let value? : Option Value :=
    if written = "true" then some (.boolean true)
    else if written = "false" then some (.boolean false)
    else match integer? written with
      | some n => some (.integer n)
      | none =>
        if isFloat written then some (.float written)
        else if isDate written then some (.date written)
        else none
  value?.map (·, text.drop written.length)

end Marginalia.Toml
