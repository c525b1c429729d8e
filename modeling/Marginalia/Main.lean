import Marginalia.CommandLine.Run

/-!
# `Marginalia.Main`: the command

Joins a run to the disk, the arguments, the environment and the streams
of a process. How local commands are started and requests are sent is left
to whoever builds the command: `act` takes the outside of every turn.
`main` itself starts no other program and opens no connection, so it is the
command where no highlighter is installed and the service is out of reach.
-/

set_option autoImplicit false

namespace Marginalia.Main

/-- The number of an error that is given as a word with or without its
sign. -/
def numberOf (code : UInt32) : Int :=
  if code.toNat < 0x80000000 then code.toNat else 0x100000000 - code.toNat

/-- The number of an error of the operating system. -/
def codeOf : IO.Error → Int
  | .alreadyExists _ code _ => numberOf code
  | .otherError code _ => numberOf code
  | .resourceBusy code _ => numberOf code
  | .resourceVanished code _ => numberOf code
  | .unsupportedOperation code _ => numberOf code
  | .hardwareFault code _ => numberOf code
  | .unsatisfiedConstraints code _ => numberOf code
  | .illegalOperation code _ => numberOf code
  | .protocolError code _ => numberOf code
  | .timeExpired code _ => numberOf code
  | .interrupted _ code _ => numberOf code
  | .noFileOrDirectory _ code _ => numberOf code
  | .invalidArgument _ code _ => numberOf code
  | .permissionDenied _ code _ => numberOf code
  | .resourceExhausted _ code _ => numberOf code
  | .inappropriateType _ code _ => numberOf code
  | .noSuchThing _ code _ => numberOf code
  | .unexpectedEof => 0
  | .userError _ => 0

/-- Makes a request about a path, whose name the system takes only
without null characters. -/
def request {α : Type} (path : Path) (act : String → IO α) : IO (Except OsError α) := do
  if path.text.any (·.toNat = 0) then return .error .nullInPath
  else
    try
      return .ok (← act (String.ofList path.text))
    catch e =>
      return .error (.code (codeOf e))

/-- What the system says to making a directory inside of a path under the
name that stands for the path itself: nothing is ever made. -/
def probe (path : Path) : IO (Except OsError Unit) :=
  request ⟨path.text ++ "/."⟩ fun name => IO.FS.createDir name

/-- Whether a request was refused for a given reason. -/
def refusedAs {α : Type} (reason : OsError) : Except OsError α → Bool
  | .ok _ => false
  | .error other => other = reason

instance : Disk IO where
  read path := request path fun name => return (← IO.FS.readBinFile name).toList
  write path content := request path fun name => IO.FS.writeBinFile name ⟨content.toArray⟩
  makeDirectory path := request path fun name => IO.FS.createDir name
  isFile path := do
    let opened ← request path fun name => IO.FS.Handle.mk name .read
    return refusedAs .notDirectory (← probe path) && !refusedAs .notDirectory opened
  isDirectory path := return refusedAs .alreadyThere (← probe path)

/-- The variable of the environment that a log filter is written in. -/
def filterVariable : String := "PHOCCO_LOG"

/-- Runs the command in the outside of every turn and gives its exit
status. -/
def act (outside : Nat → Highlight.Outside) (arguments : List String) : IO UInt32 := do
  let asked := CommandLine.Request.ofArguments (arguments.map String.toList)
  let outcome : CommandLine.Outcome ← CommandLine.run outside asked
  let written := (← IO.getEnv filterVariable).map String.toList
  if let .misuse mistake := asked then
    IO.eprintln ("error: " ++ String.ofList mistake.message)
  for record in outcome.records (CommandLine.filterOf asked written) do
    IO.eprintln (String.ofList record.render)
  IO.print (String.ofList outcome.printed)
  return outcome.verdict.code.toUInt32

end Marginalia.Main

/-- Documents the source files that the arguments name, with no highlighter
at hand. -/
def main (arguments : List String) : IO UInt32 :=
  Marginalia.Main.act (fun _ => .none) arguments
