import Marginalia.Config.Toml
import Marginalia.Disk.Basic

/-!
# `Marginalia.Config.Load`: settings in a file

A configuration is read from a file that is named, or from the file with
the usual name in a directory; where that one is missing the standard
settings hold.
-/

set_option autoImplicit false

namespace Marginalia.Config

variable {m : Type → Type} [Monad m] [Disk m]

/-- The configuration in a file. -/
def load [Language.Patterns] (path : Path) : m (Except Error Config) := do
  match ← Disk.readText path with
  | .error reason => return .error (.unreadable path reason)
  | .ok text => return parse text

/-- The configuration of a directory. -/
def discover [Language.Patterns] (directory : Path) : m (Except Error Config) := do
  let path := directory.join ⟨fileName⟩
  if ← Disk.isFile path then load path else return .ok standard

end Marginalia.Config
