import Marginalia.Config.Basic
import Marginalia.Documenter.Error
import Marginalia.Highlight.Sections
import Marginalia.Markdown.Document
import Marginalia.Page.Basic
import Marginalia.Segment.Basic

/-!
# `Marginalia.Documenter.Basic`: from a source text to its page

A documenter knows the languages, the highlighter, the directory that
pages go to and the names of all sources documented together. The page
of a source text is made in four steps: the text is cut into sections,
the code of all sections is highlighted at once, the documentation of
each is rendered, and both are laid out beside each other.
-/

set_option autoImplicit false

namespace Marginalia

open Highlight (Highlighter Outside Traced)

/-- What is needed to document source files. -/
structure Documenter where
  registry : Language.Registry
  highlighter : Highlighter
  output : Path
  sources : List Text

namespace Documenter

/-- The highlighter that settings ask for: a local command, followed by
the service where that is allowed. -/
def highlighterOf (settings : HighlighterSettings) : Highlighter :=
  let command := .command settings.command settings.limit
  if settings.fallback then .withFallback command (.service settings.url settings.limit)
  else command

/-- Whether that highlighter can be set up: the service needs a system that
lets requests be made. -/
def canSetUp (outside : Outside) (settings : HighlighterSettings) : Bool :=
  !settings.fallback || outside.opens settings.limit

/-- The documenter that a configuration asks for. -/
def ofConfig [Language.Patterns] (config : Config) : Except Config.Error Documenter :=
  config.registry.map fun registry =>
    ⟨registry, highlighterOf config.highlighter, config.output, []⟩

/-- The documenter whose pages link to those of all `sources`. -/
def withSources (documenter : Documenter) (sources : List Path) : Documenter :=
  { documenter with sources := sources.map Page.sourceName }

/-- The part of the program that documents files, in records. -/
def recordSource : Text := "phocco_core::pipeline"

/-- What is said of a source that has been cut into sections. -/
def segmented (path : Path) (profile : Language.Profile) (sections : List Section) :
    Log.Record :=
  ⟨.debug, recordSource, "segmented",
    [("file", .bare path.text), ("lexer", .quoted profile.name),
      ("sections", .number sections.length)]⟩

/-- The row of a section. -/
def row (s : HighlightedSection) : Page.Row :=
  ⟨s.index, Markdown.render s.docs, s.markup⟩

/-- The page of a source text in the language of `profile`. -/
def pageIn (documenter : Documenter) (outside : Outside) (profile : Language.Profile)
    (path : Path) (source : Text) : Traced (Except Error Text) :=
  let sections := profile.segment source
  ((Highlight.highlightSections outside documenter.highlighter profile sections).map
    fun found => (found.mapError .highlight).map fun highlighted =>
      Page.render (Page.sourceName path) documenter.sources (highlighted.map row)).after
    [.logged (segmented path profile sections)]

/-- The page of a source text, in the language that its path tells. -/
def page (documenter : Documenter) (outside : Outside) (path : Path) (source : Text) :
    Traced (Except Error Text) :=
  match documenter.registry.resolve path with
  | .error reason => ⟨.error (.language reason), []⟩
  | .ok profile => documenter.pageIn outside profile path source

/-- A source in a known language is laid out in it. -/
theorem page_of_resolve {documenter : Documenter} {outside : Outside} {path : Path}
    {source : Text} {profile : Language.Profile}
    (h : documenter.registry.resolve path = .ok profile) :
    documenter.page outside path source = documenter.pageIn outside profile path source := by
  rw [page, h]

/-- The page is decided by what becomes of the highlighted sections. -/
theorem result_pageIn (documenter : Documenter) (outside : Outside) (profile : Language.Profile)
    (path : Path) (source : Text) :
    (documenter.pageIn outside profile path source).result
      = ((Highlight.highlightSections outside documenter.highlighter profile
          (profile.segment source)).result.mapError Error.highlight).map
        fun highlighted => Page.render (Page.sourceName path) documenter.sources
          (highlighted.map row) :=
  rfl

end Documenter

end Marginalia
