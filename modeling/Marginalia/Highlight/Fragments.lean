import Marginalia.Highlight.Blob
import Marginalia.Highlight.Divider
import Marginalia.Highlight.Error

/-!
# `Marginalia.Highlight.Fragments`: one piece of markup for each section

The markup of the blob is taken out of its wrapper and cut at the
dividers. A divider follows the last section too, so a blank rest behind
it does not count. The number of fragments has to be the number of
sections.
-/

set_option autoImplicit false

namespace Marginalia.Highlight

open Marginalia.Language (Profile)

/-- What opens the code of a section. -/
def codeOpen : Text := "<div class=\"highlight\"><pre>"

/-- What closes the code of a section. -/
def codeClose : Text := "</pre></div>"

/-- What a highlighter may put in front of the first line. -/
def emptySpan : Text := "<span></span>"

/-- The markup inside the wrapper, as far as there is one. -/
def unwrap (markup : Text) : Text :=
  Text.dropTail codeClose
    (Text.dropLead emptySpan (Text.dropLead codeOpen (Text.trimEnd markup)))

/-- The fragments without a blank one that is one too many at the end. -/
def dropBlankRest (sections : Nat) (fragments : List Text) : List Text :=
  if fragments.length = sections + 1 && fragments.getLast?.any Text.allBlank then
    fragments.dropLast
  else fragments

/-- One fragment of the markup for each of `sections` sections. -/
def fragments (profile : Profile) (markup : Text) (sections : Nat) :
    Except Error (List Text) :=
  let found := dropBlankRest sections (parts profile (unwrap markup))
  if found.length = sections then .ok found
  else .error (.mismatch sections found.length)

/-- The markup of a section's code. -/
def wrap (fragment : Text) : Text :=
  codeOpen ++ fragment ++ codeClose

/-- The sections, each with its own fragment of the markup. -/
def attach (profile : Profile) (sections : List Section) (markup : Text) :
    Except Error (List HighlightedSection) :=
  (fragments profile markup sections.length).map fun found =>
    List.zipWith (fun s fragment => ⟨s, wrap fragment⟩) sections found

end Marginalia.Highlight
