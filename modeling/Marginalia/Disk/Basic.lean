import Marginalia.Path
import Marginalia.System.OsError
import Marginalia.Text.Utf8

/-!
# `Marginalia.Disk.Basic`: what is asked of a disk

The library reads whole files, writes whole files and makes directories.
Each of these is one request that the system grants or refuses, and a
directory is made together with the ones around it. Everything that
works on files is written for any `Disk`, so that a run can be followed
on a tree of files in memory as well as on the real one.
-/

set_option autoImplicit false

namespace Marginalia

/-- The requests that a disk takes. -/
class Disk (m : Type → Type) where
  /-- The content of a file. -/
  read : Path → m (Except OsError Bytes)
  /-- Replaces the content of a file, which need not be there yet. -/
  write : Path → Bytes → m (Except OsError Unit)
  /-- Makes a directory in one that is there. -/
  makeDirectory : Path → m (Except OsError Unit)
  /-- Whether a path leads to a file. -/
  isFile : Path → m Bool
  /-- Whether a path leads to a directory. -/
  isDirectory : Path → m Bool

namespace Disk

variable {m : Type → Type} [Monad m] [Disk m]

/-- The content of a file that is text throughout. -/
def readText (path : Path) : m (Except OsError Text) := do
  match ← Disk.read path with
  | .error reason => return .error reason
  | .ok content =>
    match Utf8.decode? content with
    | some text => return .ok text
    | none => return .error .notText

/-- Replaces the content of a file by a text. -/
def writeText (path : Path) (text : Text) : m (Except OsError Unit) :=
  Disk.write path (Utf8.encode text)

/-- What a request to make a directory came to, where one that is there
already is as good as a new one. -/
def orThere (path : Path) (made : Except OsError Unit) : m (Except OsError Unit) := do
  match made with
  | .ok _ => return .ok ()
  | .error reason => if ← Disk.isDirectory path then return .ok () else return .error reason

/-- Whether a directory could not be made because the one around it is
missing. -/
def lacksOuter : Except OsError Unit → Bool
  | .ok _ => false
  | .error reason => reason = OsError.noEntry

/-- Makes the first directory of a list, each of which lies in the one
after it. Where that one is missing it is made first. -/
def makeInside : List Path → m (Except OsError Unit)
  | [] => return .ok ()
  | path :: outer => do
    let made ← Disk.makeDirectory path
    if lacksOuter made then
      match ← makeInside outer with
      | .error reason => return .error reason
      | .ok _ => orThere path (← Disk.makeDirectory path)
    else orThere path made

/-- Makes a directory and those around it, as far as they are missing.
The empty path stands for a directory that is there. -/
def makeDirectories (path : Path) : m (Except OsError Unit) :=
  if path.text = [] then return .ok () else makeInside (path :: path.enclosing)

end Disk

end Marginalia
