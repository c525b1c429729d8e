import Marginalia.Toml.Scalar
import Marginalia.Toml.Tree

/-!
# `Marginalia.Toml.Document`: reading a document

A document is read line by line: each is blank, the header of a table, or
a key with its value. A value may go on over several lines.
-/

set_option autoImplicit false

namespace Marginalia.Toml

/-- What follows white space, comments and line ends; `fuel` bounds the
number of lines. -/
def skipLines : (fuel : Nat) → (text : Text) → Text
  | 0, text => text
  | fuel + 1, text =>
    let rest := skipComment (skipGap text)
    match afterLineEnd? rest with
    | some rest => skipLines fuel rest
    | none => rest

mutual

/-- Reads a value; `fuel` bounds how deep it is and how much it holds. -/
def value? (fuel : Nat) (text : Text) : Option (Value × Text) :=
  match fuel, text with
  | 0, _ => none
  | fuel + 1, '[' :: rest => array? fuel [] rest
  | fuel + 1, '{' :: rest => inlineTable? fuel [] rest
  | _ + 1, '"' :: _ => (string? text).map fun (s, rest) => (.string s, rest)
  | _ + 1, '\'' :: _ => (string? text).map fun (s, rest) => (.string s, rest)
  | _ + 1, _ => plainScalar? text

/-- Reads the items of an array, `done` being those before, in reverse. -/
def array? (fuel : Nat) (done : List Value) (text : Text) : Option (Value × Text) :=
  match fuel with
  | 0 => none
  | fuel + 1 =>
    let text := skipLines text.length text
    match text with
    | ']' :: rest => some (.array done.reverse, rest)
    | _ => do
      let (item, rest) ← value? fuel text
      match skipLines rest.length rest with
      | ',' :: rest => array? fuel (item :: done) rest
      | ']' :: rest => some (.array (item :: done).reverse, rest)
      | _ => none

/-- Reads the entries of a table in braces, `entries` being those before.
It is all on one line, and nothing follows its last entry. -/
def inlineTable? (fuel : Nat) (entries : Entries) (text : Text) : Option (Value × Text) :=
  match fuel with
  | 0 => none
  | fuel + 1 =>
    match skipGap text, entries with
    | '}' :: rest, [] => some (.table [], rest)
    | _, _ => do
      let (path, rest) ← key? text
      match rest with
      | '=' :: rest =>
        let (value, rest) ← value? fuel (skipGap rest)
        let entries ← putValue path.dropLast (path.getLastD []) value .header entries
        match skipGap rest with
        | ',' :: rest => inlineTable? fuel entries rest
        | '}' :: rest => some (.table (toValues entries), rest)
        | _ => none
      | _ => none

end

/-- The state between two lines: all entries, and the header of the table
that is being read. -/
structure Reading where
  entries : Entries
  header : List Text

/-- Reads a header with `closing` brackets behind it. -/
def header? (closing text : Text) : Option (List Text × Text) := do
  let (path, rest) ← key? text
  let rest ← Text.after? closing rest
  let rest ← endLine? rest
  return (path, rest)

/-- Reads one line. -/
def readLine? (r : Reading) (text : Text) : Option (Reading × Text) :=
  match skipGap text with
  | [] => some (r, [])
  | '#' :: _ => (endLine? text).map (r, ·)
  | '\n' :: rest => some (r, rest)
  | '\r' :: _ => (endLine? text).map (r, ·)
  | '[' :: '[' :: rest => do
    let (path, rest) ← header? "]]" rest
    let entries ← beginItem path.dropLast (path.getLastD []) r.entries
    return (⟨entries, path⟩, rest)
  | '[' :: rest => do
    let (path, rest) ← header? "]" rest
    let entries ← beginTable path.dropLast (path.getLastD []) r.entries
    return (⟨entries, path⟩, rest)
  | text => do
    let (path, rest) ← key? text
    match rest with
    | '=' :: rest =>
      let (value, rest) ← value? (rest.length + 1) (skipGap rest)
      let rest ← endLine? rest
      let entries ← changeAt false (putValue path.dropLast (path.getLastD []) value)
        .header r.entries r.header
      return (⟨entries, r.header⟩, rest)
    | _ => none

/-- Reads all lines; `fuel` bounds their number. -/
def readLines? : (fuel : Nat) → Reading → (text : Text) → Option Reading
  | 0, r, text => if text = [] then some r else none
  | fuel + 1, r, text =>
    if text = [] then some r
    else (readLine? r text).bind fun (r, rest) => readLines? fuel r rest

/-- The entries of a document, if it is well formed. A byte order mark in
front does not count. -/
def parse? (text : Text) : Option (List (Text × Value)) :=
  let text := Text.dropLead "\uFEFF" text
  (readLines? text.length ⟨[], []⟩ text).map fun r => toValues r.entries

end Marginalia.Toml
