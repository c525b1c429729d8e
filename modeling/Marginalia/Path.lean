import Marginalia.Text.Lines

/-!
# `Marginalia.Path`: names of files

A path is a text whose parts are separated by slashes. Its components
leave out what has no meaning: repeated slashes, a slash at the end, and
every `.` but one in front. Two spellings with the same components name
the same file.

As a path is a text, names that are no Unicode text have no path here. So
no name is ever shown with replacement characters, and every extension can
be looked up.
-/

set_option autoImplicit false

namespace Marginalia

/-- The name of a file or directory. -/
structure Path where
  text : Text
deriving DecidableEq

/-- One meaningful part of a path. -/
inductive Path.Component
  | root
  | current
  | parent
  | normal (name : Text)
deriving DecidableEq

namespace Path

/-- Whether the path starts at the root. -/
def isAbsolute (path : Path) : Bool :=
  Text.begins "/" path.text

/-- The component that a part between slashes is, if it has a meaning. -/
def component? (part : Text) : Option Component :=
  if part = "" || part = "." then none
  else if part = ".." then some .parent
  else some (.normal part)

/-- The meaningful parts of a path. -/
def components (path : Path) : List Component :=
  let parts := Text.splitOn '/' path.text
  let lead :=
    if path.isAbsolute then [.root]
    else if parts.head? = some "." then [.current]
    else []
  lead ++ parts.filterMap component?

/-- Whether two paths have the same components. -/
def same (a b : Path) : Bool :=
  a.components = b.components

/-- The last component, if it is a name. -/
def fileName? (path : Path) : Option Text :=
  match path.components.getLast? with
  | some (.normal name) => some name
  | _ => none

/-- A file name without its extension. A name whose only dot comes first
has no extension. -/
def stemOf (name : Text) : Text :=
  match Text.cutLast? '.' name with
  | some (front, _) => if front = [] then name else front
  | none => name

/-- The file name without its extension. -/
def fileStem? (path : Path) : Option Text :=
  path.fileName?.map stemOf

/-- What stands after the last dot of the file name; empty without one. -/
def extension (path : Path) : Text :=
  match Text.cutLast? '.' (path.fileName?.getD []) with
  | some (_, rest) => rest
  | none => []

/-- The written form of a component. -/
def Component.text : Component → Text
  | .root => []
  | .current => "."
  | .parent => ".."
  | .normal name => name

/-- The path with the given components. -/
def ofComponents : List Component → Path
  | [.root] => ⟨"/"⟩
  | parts => ⟨Text.joinWith ['/'] (parts.map Component.text)⟩

/-- The paths around a path whose components are given from the last to
the first, innermost first. -/
def around : (components : List Component) → List Path
  | [] => []
  | [_] => []
  | _ :: outer => ofComponents outer.reverse :: around outer

/-- The directories that the path names on its way, innermost first. -/
def enclosing (path : Path) : List Path :=
  around path.components.reverse

/-- The path of `part` seen from `base`. An absolute `part` stands for
itself. -/
def join (base part : Path) : Path :=
  if part.isAbsolute then part
  else if base.text = [] || base.text.getLast? = some '/' then ⟨base.text ++ part.text⟩
  else ⟨base.text ++ '/' :: part.text⟩

end Path

end Marginalia
