import Marginalia.Language.Profile
import Marginalia.Section

/-!
# `Marginalia.Highlight.Blob`: all code of a file as one text

The code of every section is highlighted in one go, so that a lexer
keeps its state across sections. Each section's code is followed by the
divider token, the last one's too.
-/

set_option autoImplicit false

namespace Marginalia.Highlight

open Marginalia.Language (Profile)

/-- The code of all sections, each followed by the divider token. -/
def blob (profile : Profile) (sections : List Section) : Text :=
  sections.flatMap fun s => s.code ++ profile.dividerToken

end Marginalia.Highlight
