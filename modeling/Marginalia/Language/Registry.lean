import Marginalia.Language.Profile
import Marginalia.Path
import Marginalia.Table

/-!
# `Marginalia.Language.Registry`: languages by file extension

A registry finds the profile of a source file by the extension of its
name. Keys are kept without the dot, and a later registration under the
same extension replaces an earlier one.
-/

set_option autoImplicit false

namespace Marginalia.Language

/-- Profiles by file extension. -/
structure Registry where
  profiles : Table Profile

namespace Registry

/-- The key of an extension: one dot in front does not count. -/
def key (extension : Text) : Text :=
  Text.dropLead "." extension

/-- The registry that knows no language. -/
def empty : Registry := ⟨Table.empty⟩

/-- The registry with `profile` under `extension`. -/
def register (registry : Registry) (extension : Text) (profile : Profile) : Registry :=
  ⟨registry.profiles.insert (key extension) profile⟩

/-- The profile under `extension`, written with or without its dot. -/
def get? (registry : Registry) (extension : Text) : Option Profile :=
  registry.profiles.get? (key extension)

/-- The extensions that have a profile, in ascending order. -/
def extensions (registry : Registry) : List Text :=
  registry.profiles.keys

/-- The number of extensions. -/
def size (registry : Registry) : Nat :=
  registry.profiles.size

/-- The profile of a source file, found by its extension. -/
def resolve (registry : Registry) (path : Path) : Except Error Profile :=
  match registry.get? path.extension with
  | some profile => .ok profile
  | none => .error (.unsupported path.extension path.text)

/-- Registers a declared language, if it is acceptable. -/
def declare [Patterns] (registry : Registry) (extension : Text) (d : Declaration) :
    Except Error Registry :=
  (Profile.ofDeclaration d).map (registry.register extension)

/-- The languages that are known from the start. -/
def builtinDeclarations : List (Text × Declaration) :=
  [("php", ⟨"php", ["#", "//"]⟩),
   ("py", ⟨"python", ["#"]⟩),
   ("rb", ⟨"ruby", ["#"]⟩),
   ("js", ⟨"javascript", ["//"]⟩),
   ("sh", ⟨"bash", ["#"]⟩),
   ("c", ⟨"c", ["//"]⟩),
   ("h", ⟨"c", ["//"]⟩),
   ("rs", ⟨"rust", ["//"]⟩)]

/-- The registry of the languages that are known from the start. -/
def builtin [Patterns] : Registry :=
  builtinDeclarations.foldl
    (fun registry (extension, d) => (registry.declare extension d).toOption.getD registry)
    empty

end Registry

end Marginalia.Language
