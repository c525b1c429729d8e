import Marginalia.Text.Basic

/-!
# `Marginalia.Section`: documentation beside the code it is about

A source file falls into sections. Each pairs a stretch of documentation
with the code that follows it, and is numbered by its place in the file.
Highlighting turns the code into markup; documentation is rendered last.
-/

set_option autoImplicit false

namespace Marginalia

/-- A stretch of documentation and the code after it. -/
structure Section where
  index : Nat
  docs : Text
  code : Text
deriving DecidableEq

/-- A section whose code has been highlighted. -/
structure HighlightedSection extends Section where
  markup : Text
deriving DecidableEq

end Marginalia
