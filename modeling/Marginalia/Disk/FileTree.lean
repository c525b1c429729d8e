import Marginalia.Disk.Basic

/-!
# `Marginalia.Disk.FileTree`: files and directories as a value

A tree says what is at each place below the root, in which directory
paths start that are not absolute, and how many bytes files may still
take. A path is followed part by part: every part but the last has to name
a directory, and so has the last one where a slash comes after it. A file
that is written is emptied first, and then takes bytes as long as there is
room, so a write may fail with half of its content on the tree.
`FileTree` is a `Disk` for programs that carry a tree along.

A tree has files and directories only. It has no links, devices or pipes,
nothing on it is protected from anybody, and nobody else changes it.
-/

set_option autoImplicit false

namespace Marginalia

/-- A place below the root: the names on the way to it, the last of them
first. -/
abbrev Location := List Text

/-- What is at a place. -/
inductive Node
  | file (content : Bytes)
  | directory
deriving DecidableEq

/-- What is at which place, and where paths start. Where `room` is given,
contents may grow by that many bytes and no more. -/
structure FileTree where
  entries : List (Location × Node)
  here : Location
  room : Option Nat := none
deriving DecidableEq

namespace FileTree

/-- What is at a place. The root is always there. -/
def at? (tree : FileTree) (place : Location) : Option Node :=
  if place = [] then some .directory else tree.entries.lookup place

/-- The tree with `node` at a place, whatever was there before. -/
def put (tree : FileTree) (place : Location) (node : Node) : FileTree :=
  { tree with entries := (place, node) :: tree.entries.filter (·.1 ≠ place) }

/-- How many bytes a name may have. -/
def longestName : Nat := 255

/-- How many bytes a path may have. -/
def longestPath : Nat := 4095

/-- Refuses a path that is never followed. -/
def check (path : Path) : Except OsError Unit :=
  if path.text.any (·.toNat = 0) then .error .nullInPath
  else if path.text = [] then .error .noEntry
  else if longestPath < Utf8.size path.text then .error .nameTooLong
  else .ok ()

/-- The place that one part of a path names, seen from a directory,
whether something is there or not. -/
def enter (tree : FileTree) (place : Location) (part : Text) : Except OsError Location :=
  match tree.at? place with
  | none => .error .noEntry
  | some (.file _) => .error .notDirectory
  | some .directory =>
    if part = [] || part = "." then .ok place
    else if part = ".." then .ok place.tail
    else if longestName < Utf8.size part then .error .nameTooLong
    else .ok (part :: place)

/-- Goes one part further, to something that is there. -/
def step (tree : FileTree) (place : Location) (part : Text) : Except OsError Location := do
  let next ← tree.enter place part
  if (tree.at? next).isSome then return next else throw .noEntry

/-- Where a path starts. -/
def start (tree : FileTree) (path : Path) : Location :=
  if path.isAbsolute then [] else tree.here

/-- The parts of a path, without the empty ones at its end. -/
def partsOf (path : Path) : List Text :=
  ((Text.splitOn '/' path.text).reverse.dropWhile (· = [])).reverse

/-- The place of something that is there. -/
def find (tree : FileTree) (path : Path) : Except OsError Location := do
  check path
  (Text.splitOn '/' path.text).foldlM tree.step (tree.start path)

/-- The place that the last part of a path names, whether something is
there or not. -/
def target (tree : FileTree) (path : Path) : Except OsError Location := do
  check path
  match (partsOf path).reverse with
  | [] => return []
  | last :: before => tree.enter (← before.reverse.foldlM tree.step (tree.start path)) last

/-- The content of a file. -/
def read (tree : FileTree) (path : Path) : Except OsError Bytes := do
  match tree.at? (← tree.find path) with
  | some (.file content) => return content
  | some .directory => throw .isDirectory
  | none => throw .noEntry

/-- The place of a file that is opened to be written, whether it is there
already or not. -/
def opened (tree : FileTree) (path : Path) : Except OsError Location := do
  let place ← tree.target path
  if path.text.getLast? = some '/' || tree.at? place = some .directory then
    throw .isDirectory
  else return place

/-- The tree with an empty file at a place. What the file there took up is
free again. -/
def truncate (tree : FileTree) (place : Location) : FileTree :=
  let freed :=
    match tree.at? place with
    | some (.file content) => content.length
    | _ => 0
  { tree.put place (.file []) with room := tree.room.map (· + freed) }

/-- Fills an empty file as far as there is room. -/
def fill (tree : FileTree) (place : Location) (content : Bytes) : Except OsError Unit × FileTree :=
  match tree.room with
  | none => (.ok (), tree.put place (.file content))
  | some room =>
    (if content.drop room = [] then .ok () else .error .noSpace,
      { tree.put place (.file (content.take room)) with room := some (room - content.length) })

/-- Another content of a file, which need not be there yet. A path that
cannot be opened leaves the tree as it is. -/
def write (tree : FileTree) (path : Path) (content : Bytes) : Except OsError Unit × FileTree :=
  match tree.opened path with
  | .error reason => (.error reason, tree)
  | .ok place => (tree.truncate place).fill place content

/-- The tree with one more directory. -/
def makeDirectory (tree : FileTree) (path : Path) : Except OsError FileTree := do
  let place ← tree.target path
  if (tree.at? place).isSome then throw .alreadyThere
  else return tree.put place .directory

/-- What a path leads to. -/
def get? (tree : FileTree) (path : Path) : Option Node :=
  match tree.find path with
  | .ok place => tree.at? place
  | .error _ => none

/-- Whether a path leads to a file. -/
def isFile (tree : FileTree) (path : Path) : Bool :=
  match tree.get? path with
  | some (.file _) => true
  | _ => false

/-- Whether a path leads to a directory. -/
def isDirectory (tree : FileTree) (path : Path) : Bool :=
  tree.get? path = some .directory

/-- What is somewhere below the directory in which paths start, with the
names on the way from there. A directory comes before what is in it, and
names are in ascending order. -/
def listing (tree : FileTree) : List (List Text × Node) :=
  (tree.entries.filterMap fun (place, node) =>
    if tree.here.isSuffixOf place && place ≠ tree.here then
      some (place.reverse.drop tree.here.length, node)
    else none).mergeSort fun a b => ¬ b.1 < a.1

/-- What becomes of a tree where a change may be refused. -/
def changed (tree : FileTree) : Except OsError FileTree → Except OsError Unit × FileTree
  | .ok later => (.ok (), later)
  | .error reason => (.error reason, tree)

instance : Disk (StateM FileTree) where
  read path := return (← get).read path
  write path content := fun tree => tree.write path content
  makeDirectory path := fun tree => tree.changed (tree.makeDirectory path)
  isFile path := return (← get).isFile path
  isDirectory path := return (← get).isDirectory path

end FileTree

end Marginalia
