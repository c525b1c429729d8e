import Marginalia.Config.Basic
import Marginalia.Toml.Document

/-!
# `Marginalia.Config.Toml`: settings in a TOML document

Every setting may be left out, and no other key may be given. The
settings of the highlighter and those of a language are tables; they may
also be given as arrays, in the order of their fields.
-/

set_option autoImplicit false

namespace Marginalia.Config

open Toml (Value)

/-- A string. -/
def string? : Value → Option Text
  | .string text => some text
  | _ => none

/-- A number of seconds. -/
def seconds? : Value → Option Nat
  | .integer n => if 0 ≤ n then some n.toNat else none
  | _ => none

/-- A truth value. -/
def boolean? : Value → Option Bool
  | .boolean b => some b
  | _ => none

/-- A list of strings. -/
def strings? : Value → Option (List Text)
  | .array items => items.mapM string?
  | _ => none

/-- Gives each field of a list the value at its place in the other. -/
def inOrder (fields : List Text) (items : List Value) : List (Text × Value) :=
  fields.zip items

/-- The fields of the highlighter's settings. -/
def highlighterFields : List Text :=
  ["command", "remote-url", "timeout-secs", "fallback"]

/-- Changes one setting of the highlighter. -/
def setHighlighter (settings : HighlighterSettings) (entry : Text × Value) :
    Option HighlighterSettings :=
  let (key, value) := entry
  if key = "command" then
    (string? value).map fun command => { settings with command }
  else if key = "remote-url" then
    (string? value).map fun url => { settings with url }
  else if key = "timeout-secs" then
    (seconds? value).map fun seconds => { settings with seconds }
  else if key = "fallback" then
    (boolean? value).map fun fallback => { settings with fallback }
  else none

/-- The settings of the highlighter. -/
def highlighter? : Value → Option HighlighterSettings
  | .table entries => entries.foldlM setHighlighter .standard
  | .array items => (inOrder highlighterFields items).foldlM setHighlighter .standard
  | _ => none

/-- The fields of a language. -/
def languageFields : List Text :=
  ["name", "symbols"]

/-- A language whose fields are given by key. -/
def ofFields? (entries : List (Text × Value)) : Option Language.Declaration := do
  let name ← List.lookup ("name" : Text) entries
  let symbols ← List.lookup ("symbols" : Text) entries
  if entries.all fun entry => languageFields.contains entry.1 then
    return ⟨← string? name, ← strings? symbols⟩
  else none

/-- A language. -/
def language? : Value → Option Language.Declaration
  | .table entries => ofFields? entries
  | .array items => ofFields? (inOrder languageFields items)
  | _ => none

/-- Languages by extension. -/
def languages? : Value → Option (Table Language.Declaration)
  | .table entries =>
    (entries.mapM fun (entry : Text × Value) =>
      (language? entry.2).map fun declaration => (entry.1, declaration)).map Table.ofList
  | _ => none

/-- Changes one setting. -/
def setEntry (config : Config) (entry : Text × Value) : Option Config :=
  let (key, value) := entry
  if key = "output" then
    (string? value).map fun output => { config with output := ⟨output⟩ }
  else if key = "highlighter" then
    (highlighter? value).map fun highlighter => { config with highlighter }
  else if key = "languages" then
    (languages? value).map fun languages => { config with languages }
  else none

/-- The configuration that the entries of a document give. -/
def ofEntries? (entries : List (Text × Value)) : Option Config :=
  entries.foldlM setEntry standard

/-- The configuration that is written in a document, accepted or not. -/
def read? (text : Text) : Option Config :=
  (Toml.parse? text).bind ofEntries?

/-- The configuration in a document that `read` reads, if it is
acceptable. -/
def parseWith [Language.Patterns] (read : Text → Option Config) (text : Text) :
    Except Error Config :=
  match read text with
  | some config => config.validate
  | none => .error .malformed

/-- The configuration in a document. -/
def parse [Language.Patterns] (text : Text) : Except Error Config :=
  parseWith read? text

end Marginalia.Config
