import Marginalia.CommandLine.Arguments
import Marginalia.Config.Load
import Marginalia.Documenter.Publish
import Marginalia.Log.Filter

/-!
# `Marginalia.CommandLine.Run`: one run of the command

The configuration comes first; without one no file is looked at. Then
every file is documented in its turn, whatever became of the others. A
run succeeds if all its files do.

A run takes the outside as it is at each turn, counted from 0. The
highlighter is set up in the outside of the first turn.
-/

set_option autoImplicit false

namespace Marginalia.CommandLine

open Highlight (Outside Event Traced)

/-- How a run ended: everything succeeded, something failed, or the
arguments were wrong. -/
inductive Verdict
  | success
  | failure
  | misuse
deriving DecidableEq

/-- The exit status that tells how a run ended. -/
def Verdict.code : Verdict → Nat
  | .success => 0
  | .failure => 1
  | .misuse => 2

/-- What a run leaves behind besides files: how it ended, what it
prints, and everything it did on the way. -/
structure Outcome where
  verdict : Verdict
  printed : Text
  events : List Event
deriving DecidableEq

/-- The records of a run that a filter admits. -/
def Outcome.records (outcome : Outcome) (filter : Log.Filter) : List Log.Record :=
  outcome.events.filterMap fun
    | .logged record => if filter.admits record then some record else none
    | _ => none

/-- The name of the command. -/
def commandName : Text := "phocco"

/-- The version of the command. -/
def version : Text := "0.1.0"

/-- The part of the program that runs the command, in records. -/
def recordSource : Text := commandName

/-- What the command says about itself. -/
def helpText : Text :=
"Literate-programming documentation generator

Usage: phocco [OPTIONS] [FILES]...

Arguments:
  [FILES]...  Source files to document

Options:
  -o, --output <OUTPUT>            Output directory for generated pages (default: docs)
  -c, --config <CONFIG>            Configuration file (default: ./phocco.toml when present)
      --highlighter <HIGHLIGHTER>  Local highlighter command (default: pygmentize)
      --no-fallback                Never fall back to the remote highlighting service
  -v, --verbose                    Enable debug logging
  -h, --help                       Print help
  -V, --version                    Print version
"

/-- The name and version of the command. -/
def versionText : Text :=
  commandName ++ ' ' :: version ++ ['\n']

/-- What is printed where no file is given. -/
def noFilesText : Text := "You must supply a filename to continue.\n"

/-! ### Settings -/

/-- The errors behind an error of the configuration. -/
def reasonsOf : Config.Error → List Text
  | .unreadable _ reason => [reason.message]
  | .invalidLanguage _ reason => reason.message :: reason.causes
  | .malformed => []
  | .zeroTimeout => []

/-- An error with what was being done and with what is behind it. -/
def chain (doing : Text) (e : Config.Error) : Text :=
  Text.joinWith ": " (doing :: e.message :: reasonsOf e)

/-- What was being done when the configuration could not be loaded. -/
def loading (arguments : Arguments) : Text :=
  match arguments.config with
  | some path => "Failed to load config '" ++ path.text ++ "'"
  | none => "Failed to load phocco.toml"

/-- What was being done when a configuration gave no documenter. -/
def settingUp : Text := "Failed to set up the highlighter"

/-- What is said where the service cannot be set up. -/
def noService : Text :=
  Text.joinWith ": " [settingUp, Highlight.Error.service.message]

/-- A configuration with the settings that the arguments override. -/
def Arguments.override (arguments : Arguments) (config : Config) : Config :=
  { config with
    output := arguments.output.getD config.output
    highlighter := { config.highlighter with
      command := arguments.highlighter.getD config.highlighter.command
      fallback := config.highlighter.fallback && !arguments.noFallback } }

variable {m : Type → Type} [Monad m] [Disk m]

/-- The configuration that the arguments name, or that of the working
directory, before anything is overridden. -/
def configOf [Language.Patterns] (arguments : Arguments) : m (Except Config.Error Config) :=
  match arguments.config with
  | some path => Config.load path
  | none => Config.discover ⟨"."⟩

/-! ### Records -/

/-- What is said where a run ends early. -/
def stopped (message : Text) : Log.Record :=
  ⟨.error, recordSource, message, []⟩

/-- What is said of the configuration of a run. -/
def loaded (config : Config) : Log.Record :=
  ⟨.debug, recordSource, "configuration loaded",
    [("output", .bare config.output.text), ("command", .bare config.highlighter.command)]⟩

/-- What is said of a file without a page. -/
def undocumented (file : Path) (e : Documenter.Error) : Log.Record :=
  ⟨.error, recordSource, e.message, [("file", .bare file.text)]⟩

/-- What is said in the end where files have no page. -/
def countMessage (failed all : Nat) : Text :=
  Text.ofNat failed ++ " of " ++ Text.ofNat all ++ " files could not be documented"

/-! ### Files -/

/-- How many files of a run have no page, what was printed about the
others, and what was done. -/
structure Tally where
  failed : Nat
  printed : Text
  events : List Event
deriving DecidableEq

/-- The tally before the first file. -/
def Tally.zero : Tally := ⟨0, [], []⟩

/-- The tally with one more file. -/
def Tally.add (tally : Tally) (file : Path) (outcome : Traced (Except Documenter.Error Path)) :
    Tally :=
  match outcome.result with
  | .ok target =>
    ⟨tally.failed, tally.printed ++ "Generated: " ++ target.text ++ ['\n'],
      tally.events ++ outcome.events⟩
  | .error e =>
    ⟨tally.failed + 1, tally.printed,
      tally.events ++ outcome.events ++ [.logged (undocumented file e)]⟩

/-- Documents the files one after the other, each in the outside of its
turn. -/
def publishAll (documenter : Documenter) (outside : Nat → Outside) (files : List Path) :
    m Tally :=
  files.zipIdx.foldlM
    (fun tally (file, turn) => return tally.add file (← documenter.publish (outside turn) file))
    Tally.zero

/-- The outcome of a run that came to its last file. -/
def conclude (documenter : Documenter) (files : List Path) (tally : Tally) : Outcome :=
  if tally.failed = 0 then
    ⟨.success, tally.printed ++ "\nDocumentation generated in: " ++ documenter.output.text
      ++ ['\n'], tally.events⟩
  else
    ⟨.failure, tally.printed,
      tally.events ++ [.logged (stopped (countMessage tally.failed files.length))]⟩

/-- The outcome of a run that ended before its first file. -/
def abandon (events : List Event) (message : Text) : Outcome :=
  ⟨.failure, [], events ++ [.logged (stopped message)]⟩

/-- Documents the files that the arguments name. -/
def document [Language.Patterns] (outside : Nat → Outside) (arguments : Arguments) :
    m Outcome := do
  if arguments.files = [] then return ⟨.success, noFilesText, []⟩
  else
    match ← configOf arguments with
    | .error e => return abandon [] (chain (loading arguments) e)
    | .ok found =>
      let config := arguments.override found
      let events := [Event.logged (loaded config)]
      match Documenter.ofConfig config with
      | .error e => return abandon events (chain settingUp e)
      | .ok bare =>
        if Documenter.canSetUp (outside 0) config.highlighter then
          let documenter := bare.withSources arguments.files
          let tally ← publishAll documenter outside arguments.files
          let outcome := conclude documenter arguments.files tally
          return { outcome with events := events ++ outcome.events }
        else return abandon events noService

/-- Does what is asked for. -/
def run [Language.Patterns] (outside : Nat → Outside) : Request → m Outcome
  | .help => return ⟨.success, helpText, []⟩
  | .version => return ⟨.success, versionText, []⟩
  | .misuse _ => return ⟨.misuse, [], []⟩
  | .document arguments => document outside arguments

/-- The filter that a request and the environment ask for. -/
def filterOf (request : Request) (written : Option Text) : Log.Filter :=
  match request with
  | .document arguments => Log.Filter.choose arguments.verbose written
  | _ => Log.Filter.choose false written

end Marginalia.CommandLine
