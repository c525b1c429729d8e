import Marginalia.Highlight.Error
import Marginalia.Language.Profile
import Marginalia.Path

/-!
# `Marginalia.Documenter.Error`: why a source has no page
-/

set_option autoImplicit false

namespace Marginalia.Documenter

/-- A reason for which a source file has no page. -/
inductive Error
  | language (reason : Language.Error)
  | highlight (reason : Highlight.Error)
  | unreadable (path : Path) (reason : OsError)
  | unwritable (path : Path) (reason : OsError)
  | unrenderable
deriving DecidableEq

/-- The wording of an error. -/
def Error.message : Error → Text
  | .language reason => reason.message
  | .highlight reason => reason.message
  | .unreadable path reason => "failed to read '" ++ path.text ++ "': " ++ reason.message
  | .unwritable path reason => "failed to write '" ++ path.text ++ "': " ++ reason.message
  | .unrenderable => "failed to render page"

end Marginalia.Documenter
