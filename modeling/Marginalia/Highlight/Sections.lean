import Marginalia.Highlight.Fragments
import Marginalia.Highlight.Highlighter

/-!
# `Marginalia.Highlight.Sections`: highlighting the sections of a file

All code of a file goes through the highlighter at once, and its markup
is cut into one fragment for each section again. Where anything fails no
section is highlighted.
-/

set_option autoImplicit false

namespace Marginalia.Highlight

open Marginalia.Language (Profile)

/-- The part of the program that drives highlighters, in records. -/
def sectionsSource : Text := "phocco_core::highlight"

/-- What is said before a blob is highlighted. -/
def highlighting (highlighter : Highlighter) (profile : Profile) (sections : List Section) :
    Log.Record :=
  ⟨.debug, sectionsSource, "highlighting",
    [("highlighter", .quoted highlighter.name), ("lexer", .quoted profile.name),
      ("bytes", .number (Utf8.size (blob profile sections))),
      ("sections", .number sections.length)]⟩

/-- The sections with the markup of their code. -/
def highlightSections (outside : Outside) (highlighter : Highlighter) (profile : Profile)
    (sections : List Section) : Traced (Except Error (List HighlightedSection)) :=
  ((highlighter.run outside profile.name (blob profile sections)).map
    (·.bind (attach profile sections))).after
      [.logged (highlighting highlighter profile sections)]

end Marginalia.Highlight
