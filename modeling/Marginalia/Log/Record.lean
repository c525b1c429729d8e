import Marginalia.Text.Quoted

/-!
# `Marginalia.Log.Record`: what the program says about its work

A record has a level, the part of the program it comes from, a message
and named values. Records are data here: the functions that do the work
return them, and the command line decides which of them to print.
-/

set_option autoImplicit false

namespace Marginalia.Log

/-- How much a record matters, from most to least. -/
inductive Level
  | error
  | warn
  | info
  | debug
  | trace
deriving DecidableEq

namespace Level

/-- The name of a level in a record. -/
def name : Level → Text
  | .error => "ERROR"
  | .warn => "WARN"
  | .info => "INFO"
  | .debug => "DEBUG"
  | .trace => "TRACE"

/-- The place of a level: the more a level lets through, the higher. -/
def rank : Level → Nat
  | .error => 1
  | .warn => 2
  | .info => 3
  | .debug => 4
  | .trace => 5

end Level

/-- A value in a record: as it is, between quotes, or a number. -/
inductive Value
  | bare (text : Text)
  | quoted (text : Text)
  | number (n : Nat)
deriving DecidableEq

/-- The written form of a value. -/
def Value.render : Value → Text
  | .bare text => text
  | .quoted text => Text.quoted text
  | .number n => Text.ofNat n

/-- Whether a terminal may take a character for an order. -/
def isOrder (c : Char) : Bool :=
  let n := c.toNat
  n = 7 || n = 8 || n = 12 || n = 27 || n = 127 || (0x80 ≤ n && n ≤ 0x9F)

/-- The written form of a character of a message: orders to a terminal
are spelled out. -/
def messageChar (c : Char) : Text :=
  let digits := Nat.toDigits 16 c.toNat
  if ¬ isOrder c then [c]
  else if c.toNat < 0x10 then "\\x0" ++ digits
  else if c.toNat < 0x80 then "\\x" ++ digits
  else "\\u\x7b" ++ digits ++ "\x7d"

/-- One thing the program says. -/
structure Record where
  level : Level
  source : Text
  message : Text
  values : List (Text × Value)
deriving DecidableEq

/-- A record as a line, without a time. -/
def Record.render (record : Record) : Text :=
  record.level.name ++ ' ' :: record.message.flatMap messageChar
    ++ record.values.flatMap fun (name, value) => ' ' :: name ++ '=' :: value.render

end Marginalia.Log
