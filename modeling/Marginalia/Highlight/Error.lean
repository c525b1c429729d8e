import Marginalia.System.Duration
import Marginalia.System.ExitStatus
import Marginalia.System.OsError

/-!
# `Marginalia.Highlight.Error`: why code could not be highlighted
-/

set_option autoImplicit false

namespace Marginalia.Highlight

/-- A reason for which code has no markup. Only `unavailable` lets a
fallback take over. -/
inductive Error
  | unavailable (tool : Text)
  | timeout (tool : Text) (limit : Duration)
  | failed (tool : Text) (status : ExitStatus) (complaint : Text)
  | refused (status : Nat)
  | service
  | system (reason : OsError)
  | mismatch (sections fragments : Nat)
deriving DecidableEq

/-- The wording of an error. -/
def Error.message : Error → Text
  | .unavailable tool => "highlighter '" ++ tool ++ "' is not available"
  | .timeout tool limit => "highlighter '" ++ tool ++ "' timed out after " ++ limit.message
  | .failed tool status complaint =>
    "highlighter '" ++ tool ++ "' failed (" ++ status.message ++ "): " ++ complaint
  | .refused status => "highlighting service returned HTTP " ++ Text.ofNat status
  | .service => "highlighting service error"
  | .system reason => "highlighter IO error: " ++ reason.message
  | .mismatch sections fragments =>
    "highlighter output has " ++ Text.ofNat fragments ++ " fragments for "
      ++ Text.ofNat sections ++ " sections"

end Marginalia.Highlight
