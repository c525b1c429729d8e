import Marginalia.Toml.Value

/-!
# `Marginalia.Toml.Tree`: tables while a document is read

A table may be written in pieces, and what may still be added to it
depends on how it came about: through its own header, through the header
of a table in it, or through a key with dots.
-/

set_option autoImplicit false

namespace Marginalia.Toml

/-- How a table came about. -/
inductive Origin
  | header
  | implied
  | dotted
deriving DecidableEq

/-- What stands under a key: a value, a table, or several tables under
headers with double brackets, last first. -/
inductive Node
  | value (v : Value)
  | table (origin : Origin) (entries : List (Text × Node))
  | tables (items : List (List (Text × Node)))

/-- The entries of a table. -/
abbrev Entries := List (Text × Node)

namespace Entries

/-- What stands under a key. -/
def find? (entries : Entries) (key : Text) : Option Node :=
  (List.find? (fun e => e.1 = key) entries).map (·.2)

/-- The entries with `node` under a key, in its old place if it had one. -/
def set (entries : Entries) (key : Text) (node : Node) : Entries :=
  if List.any entries (fun e => e.1 = key) then
    entries.map fun e => if e.1 = key then (key, node) else e
  else entries ++ [(key, node)]

end Entries

/-- Changes the table at a path by `f`, which also learns how that table
came about. Tables that are missing on the way are made. A key with dots
does not lead through a table that has a header. -/
def changeAt (dotted : Bool) (f : Origin → Entries → Option Entries) (origin : Origin)
    (entries : Entries) : (path : List Text) → Option Entries
  | [] => f origin entries
  | key :: path =>
    match entries.find? key with
    | none =>
      let made := if dotted then Origin.dotted else .implied
      (changeAt dotted f made [] path).map fun inner => entries.set key (.table made inner)
    | some (.value _) => none
    | some (.table origin inner) =>
      if dotted && origin = .header then none
      else (changeAt dotted f origin inner path).map fun inner =>
        entries.set key (.table origin inner)
    | some (.tables []) => none
    | some (.tables (last :: before)) =>
      (changeAt dotted f .header last path).map fun last =>
        entries.set key (.tables (last :: before))

/-- Puts a node under a key that is not yet taken. -/
def addNew (key : Text) (node : Node) (entries : Entries) : Option Entries :=
  match entries.find? key with
  | some _ => none
  | none => some (entries.set key node)

/-- Puts a value under a key of several parts, the last of which is
`key`. Where there are others, the table they lead to has to be made by
such keys. -/
def putValue (path : List Text) (key : Text) (value : Value) (origin : Origin)
    (entries : Entries) : Option Entries :=
  changeAt true
    (fun origin entries =>
      if path.isEmpty || origin = .dotted then addNew key (.value value) entries else none)
    origin entries path

/-- Begins a table under a header. -/
def beginTable (path : List Text) (key : Text) (entries : Entries) : Option Entries :=
  changeAt false
    (fun _ entries =>
      match entries.find? key with
      | none => some (entries.set key (.table .header []))
      | some (.table .implied inner) => some (entries.set key (.table .header inner))
      | some _ => none)
    .header entries path

/-- Begins one more of several tables under a header. -/
def beginItem (path : List Text) (key : Text) (entries : Entries) : Option Entries :=
  changeAt false
    (fun _ entries =>
      match entries.find? key with
      | none => some (entries.set key (.tables [[]]))
      | some (.tables items) => some (entries.set key (.tables ([] :: items)))
      | some _ => none)
    .header entries path

mutual

/-- What stands under a key, as a value. -/
def Node.toValue : Node → Value
  | .value v => v
  | .table _ entries => .table (toValues entries)
  | .tables items => .array (itemValues items).reverse

/-- The entries of a table, as values. -/
def toValues : List (Text × Node) → List (Text × Value)
  | [] => []
  | (key, node) :: rest => (key, node.toValue) :: toValues rest

/-- Several tables, as values. -/
def itemValues : List (List (Text × Node)) → List Value
  | [] => []
  | item :: rest => .table (toValues item) :: itemValues rest

end

end Marginalia.Toml
