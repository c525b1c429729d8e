import Marginalia.Log.Record
import Marginalia.Text.Blank
import Marginalia.Text.Lines
import Marginalia.Unicode.Punctuation

/-!
# `Marginalia.Log.Filter`: which records are printed

A filter is written as rules with commas between them. A rule names a
level (`warn`), a part of the program (`phocco_core`), or both with an
equals sign between them; the part may be followed by a context in
square brackets, or by a value that a record must have in braces within
brackets. Of the rules that are about a record the most specific one
decides. No record is ever said within a context, so rules that ask for
one admit nothing.
-/

set_option autoImplicit false

namespace Marginalia.Log

/-- Which records a rule is about, and up to which rank it admits them. -/
structure Rule where
  source : Option Text
  value : Option Text
  limit : Nat
deriving DecidableEq

/-- Rules, of which a later one replaces an equally specific earlier
one. -/
structure Filter where
  rules : List Rule
deriving DecidableEq

namespace Rule

/-- The rank that admits every record. -/
def everything : Nat := Level.trace.rank

/-- The names of limits, each at the place of its rank. -/
def limitNames : List Text :=
  ["off", "error", "warn", "info", "debug", "trace"]

/-- The digits of a number, with or without a plus sign. -/
def number? (text : Text) : Option Nat :=
  let digits := Text.dropLead "+" text
  if digits ≠ [] && digits.all Char.isDigit then
    some (digits.foldl (fun n c => n * 10 + (c.toNat - '0'.toNat)) 0)
  else none

/-- The limit that a text names by its rank or, in letters of either
case, by its name. -/
def limit? (text : Text) : Option Nat :=
  match number? text with
  | some n => if n ≤ everything then some n else none
  | none => limitNames.findIdx? (· = text.map Char.toLower)

/-- Whether a rule may begin with a character. -/
def mayBegin (c : Char) : Bool :=
  c = '[' || c = '-' || c = ':' || c = '_' || c.isAlphanum
    || (128 ≤ c.toNat && ¬ Unicode.isPunctuation c && ¬ isBlank c)

/-- The limit behind an equals sign. Nothing there stands for
everything. -/
def limitBehind? (text : Text) : Option Nat :=
  if text = [] then some everything else limit? text

/-- The limit behind a closing bracket. -/
def limitAfterBracket? : Text → Option Nat
  | [] => some everything
  | '=' :: text => limitBehind? text
  | _ => none

/-- A value that a record must have, with a rule of its own for what the
value has to be: such rules are only ever about contexts. -/
def value? (text : Text) : Option (Option Text) :=
  if text = [] then none
  else if text.contains '=' then some none
  else some (some text)

/-- The rule about `source` that goes on behind an opening bracket. A
rule about a context gives none. -/
def inBrackets? (source : Option Text) (text : Text) : Option (List Rule) :=
  let name := text.takeWhile fun c => c ≠ ']' && c ≠ '\x7b'
  match text.dropWhile fun c => c ≠ ']' && c ≠ '\x7b' with
  | ']' :: rest => (limitAfterBracket? rest).map fun _ => []
  | '\x7b' :: rest =>
    match value? (rest.takeWhile (· ≠ '\x7d')), rest.dropWhile (· ≠ '\x7d') with
    | some value, '\x7d' :: ']' :: rest =>
      (limitAfterBracket? rest).map fun limit =>
        match name, value with
        | [], some value => [⟨source, some value, limit⟩]
        | _, _ => []
    | _, _ => none
  | _ => none

/-- The rule that a text writes, if it is one. A rule about a context
gives none. -/
def parse? (text : Text) : Option (List Rule) :=
  let source := text.takeWhile fun c => c ≠ '=' && c ≠ '['
  if ¬ (Text.trim text).head?.any mayBegin then none
  else
    match text.dropWhile fun c => c ≠ '=' && c ≠ '[' with
    | '=' :: rest => (limitBehind? rest).map fun limit => [⟨some source, none, limit⟩]
    | '[' :: rest => inBrackets? (if source = [] then none else some source) rest
    | _ =>
      match limit? text with
      | some limit => some [⟨none, none, limit⟩]
      | none => some [⟨some text, none, everything⟩]

/-- Whether a rule is about a record. -/
def concerns (rule : Rule) (record : Record) : Bool :=
  rule.source.all (Text.begins · record.source)
    && rule.value.all fun value => record.values.any (·.1 = value)

/-- Whether the first of two rules about one record is at least as
specific: it names more of the part of the program or, where both name
as much, asks for a value. -/
def outweighs (a b : Rule) : Bool :=
  let weight (rule : Rule) : Nat := (rule.source.map (·.length + 1)).getD 0
  if weight a = weight b then
    match a.value, b.value with
    | none, some _ => false
    | some v, some w => ¬ v < w
    | _, none => true
  else weight b < weight a

end Rule

namespace Filter

/-- The filter that admits records up to a level from everywhere. -/
def upTo (level : Level) : Filter :=
  ⟨[⟨none, none, level.rank⟩]⟩

/-- The filter that a text writes. A text without rules admits errors. -/
def parse? (text : Text) : Option Filter :=
  let parts := (Text.splitOn ',' text).filter (· ≠ [])
  if parts = [] then some (upTo .error)
  else (parts.mapM Rule.parse?).map fun found => ⟨found.flatten⟩

/-- The filter of a run: debugging shows everything up to `debug`, and
where no filter is given, or none that can be read, the limit is
`info`. -/
def choose (debugging : Bool) (written : Option Text) : Filter :=
  if debugging then upTo .debug else (written.bind parse?).getD (upTo .info)

/-- The rule that decides about a record. -/
def deciding? (filter : Filter) (record : Record) : Option Rule :=
  (filter.rules.filter (·.concerns record)).foldl
    (fun best rule =>
      match best with
      | none => some rule
      | some other => if rule.outweighs other then some rule else best)
    none

/-- Whether a record is printed. -/
def admits (filter : Filter) (record : Record) : Bool :=
  (filter.deciding? record).any fun rule => record.level.rank ≤ rule.limit

end Filter

end Marginalia.Log
