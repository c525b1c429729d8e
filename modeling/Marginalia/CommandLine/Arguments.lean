import Marginalia.Path

/-!
# `Marginalia.CommandLine.Arguments`: what a user asks for

Arguments are read from left to right. An option takes its value from
the same argument or from the next one; switches may be bundled behind
one dash; after `--` everything is a file. A value is looked at when the
next option begins or the arguments end, so whichever comes first of a
mistake and a call for help decides.
-/

set_option autoImplicit false

namespace Marginalia.CommandLine

/-- What to document, and which settings to override. -/
structure Arguments where
  files : List Path
  output : Option Path
  config : Option Path
  highlighter : Option Text
  noFallback : Bool
  verbose : Bool
deriving DecidableEq

/-- An option that takes a value. -/
inductive Setting
  | output
  | config
  | highlighter
deriving DecidableEq

/-- An option that stands alone. -/
inductive Switch
  | noFallback
  | verbose
  | help
  | version
deriving DecidableEq

/-- An option. -/
inductive Choice
  | setting (setting : Setting)
  | switch (switch : Switch)
deriving DecidableEq

/-- A mistake in the arguments. -/
inductive Misuse
  | unknown (argument : Text)
  | needsValue (option : Text)
  | takesNoValue (option : Text)
  | repeated (option : Text)
  | emptyPath
deriving DecidableEq

/-- The wording of a mistake. -/
def Misuse.message : Misuse → Text
  | .unknown argument => "unexpected argument '" ++ argument ++ "' found"
  | .needsValue option => "a value is required for '" ++ option ++ "' but none was supplied"
  | .takesNoValue option => "a value was given for '" ++ option ++ "' but it takes none"
  | .repeated option => "the argument '" ++ option ++ "' cannot be used multiple times"
  | .emptyPath => "a path must not be empty"

/-- What the arguments come to. -/
inductive Request
  | help
  | version
  | misuse (mistake : Misuse)
  | document (arguments : Arguments)
deriving DecidableEq

namespace Choice

/-- The long name of an option. -/
def name : Choice → Text
  | .setting .output => "output"
  | .setting .config => "config"
  | .setting .highlighter => "highlighter"
  | .switch .noFallback => "no-fallback"
  | .switch .verbose => "verbose"
  | .switch .help => "help"
  | .switch .version => "version"

/-- The option as it is written. -/
def written (choice : Choice) : Text :=
  "--" ++ choice.name

/-- All options. -/
def all : List Choice :=
  [.setting .output, .setting .config, .setting .highlighter, .switch .noFallback,
    .switch .verbose, .switch .help, .switch .version]

/-- The option with a long name. -/
def ofName? (name : Text) : Option Choice :=
  all.find? (·.name = name)

/-- The option with a short name. -/
def ofLetter? : Char → Option Choice
  | 'o' => some (.setting .output)
  | 'c' => some (.setting .config)
  | 'v' => some (.switch .verbose)
  | 'h' => some (.switch .help)
  | 'V' => some (.switch .version)
  | _ => none

end Choice

/-- What has been read but not yet looked at. -/
inductive Pending
  | nothing
  | files (found : List Text)
  | value (setting : Setting) (value : Option Text)
deriving DecidableEq

/-- How far reading has come. -/
structure Reading where
  arguments : Arguments
  pending : Pending
  onlyFiles : Bool
deriving DecidableEq

/-- A step of reading: further on, or to an end before the last
argument. -/
abbrev Step := Except Request Reading

namespace Reading

/-- Where reading starts. -/
def start : Reading :=
  ⟨⟨[], none, none, none, false, false⟩, .nothing, false⟩

/-- Ends with a mistake. -/
def wrong (mistake : Misuse) : Step :=
  .error (.misuse mistake)

/-- Puts a value where it belongs, with `write`, unless there is one
already. -/
def putOnce {α : Type} (reading : Reading) (choice : Choice) (old : Option α)
    (write : Arguments → Arguments) : Step :=
  if old.isSome then wrong (.repeated choice.written)
  else .ok { reading with arguments := write reading.arguments }

/-- Puts the value of an option in its place. -/
def putValue (reading : Reading) (setting : Setting) (value : Text) : Step :=
  let choice := Choice.setting setting
  match setting with
  | .output =>
    if value = [] then wrong .emptyPath
    else reading.putOnce choice reading.arguments.output ({ · with output := some ⟨value⟩ })
  | .config =>
    if value = [] then wrong .emptyPath
    else reading.putOnce choice reading.arguments.config ({ · with config := some ⟨value⟩ })
  | .highlighter =>
    reading.putOnce choice reading.arguments.highlighter ({ · with highlighter := some value })

/-- Looks at what is pending and puts it in its place. -/
def settle (reading : Reading) : Step :=
  let settled := { reading with pending := .nothing }
  match reading.pending with
  | .nothing => .ok settled
  | .files found =>
    if found.contains [] then wrong .emptyPath
    else
      let arguments := reading.arguments
      .ok { settled with
        arguments := { arguments with files := arguments.files ++ found.map Path.mk } }
  | .value setting none => wrong (.needsValue (Choice.setting setting).written)
  | .value setting (some value) => settled.putValue setting value

/-- Turns a switch on that may be on already. -/
def turnOn (reading : Reading) (switch : Switch) : Step :=
  let on (b : Bool) : Option Unit := if b then some () else none
  let choice := Choice.switch switch
  match switch with
  | .help => .error .help
  | .version => .error .version
  | .noFallback =>
    reading.putOnce choice (on reading.arguments.noFallback) ({ · with noFallback := true })
  | .verbose =>
    reading.putOnce choice (on reading.arguments.verbose) ({ · with verbose := true })

/-- Begins an option with the value that is attached to it, if any. -/
def begin (reading : Reading) (setting : Setting) (value : Option Text) : Step :=
  reading.settle.map fun settled => { settled with pending := .value setting value }

/-- Reads a file. -/
def file (reading : Reading) (name : Text) : Step :=
  match reading.pending with
  | .files found => .ok { reading with pending := .files (found ++ [name]) }
  | _ => reading.settle.map fun settled => { settled with pending := .files [name] }

/-- Reads what follows two dashes. -/
def long (reading : Reading) (text : Text) : Step :=
  let name := text.takeWhile (· ≠ '=')
  let value := match text.dropWhile (· ≠ '=') with
    | _ :: value => some value
    | [] => none
  match Choice.ofName? name, value with
  | none, _ => wrong (.unknown ("--" ++ text))
  | some (.setting setting), value => reading.begin setting value
  | some (.switch switch), none => reading.settle.bind (·.turnOn switch)
  | some choice, some _ => wrong (.takesNoValue choice.written)

/-- Reads what follows one dash. -/
def short (reading : Reading) : Text → Step
  | [] => .ok reading
  | letter :: rest =>
    match Choice.ofLetter? letter with
    | none => wrong (.unknown ['-', letter])
    | some (.setting setting) =>
      reading.begin setting (if rest = [] then none else some (Text.dropLead "=" rest))
    | some (.switch switch) =>
      match reading.settle.bind (·.turnOn switch) with
      | .ok next => next.short rest
      | .error request => .error request

/-- Reads an argument that is no option. -/
def plain (reading : Reading) (argument : Text) : Step :=
  match reading.pending with
  | .value setting none => .ok { reading with pending := .value setting (some argument) }
  | _ => reading.file argument

/-- Reads one argument. -/
def next (reading : Reading) (argument : Text) : Step :=
  if reading.onlyFiles then reading.file argument
  else
    match argument with
    | ['-', '-'] => .ok { reading with onlyFiles := true }
    | '-' :: '-' :: text => reading.long text
    | '-' :: letter :: rest => reading.short (letter :: rest)
    | argument => reading.plain argument

end Reading

/-- What a list of arguments asks for. -/
def Request.ofArguments (arguments : List Text) : Request :=
  match (arguments.foldlM Reading.next Reading.start).bind Reading.settle with
  | .ok reading => .document reading.arguments
  | .error request => request

end Marginalia.CommandLine
