import Marginalia.Documenter.Basic
import Marginalia.Proofs.Highlight.Strays
import Marginalia.Proofs.Segment.Sections

/-!
# `Marginalia.Proofs.Documenter.OwnCode`: can the sentinel be code?

The sentinel begins with a comment symbol, so as a line of a source file
it should be documentation. `strays_segment` says when it is not: the
strays of a file are the lines that are the sentinel, unless the language
takes the sentinel for documentation. It does so when the first comment
symbol begins with a visible character (`isDoc_sentinel_of_visible`). But
lines are compared with a symbol after the blanks in front of them are
taken off, and a symbol is not. So a symbol with a blank in front never
fits, and what is written with it is code.

`page_of_lineWise` draws the conclusion for whole pages: for every source
text, a line-wise highlighter leads to the page with everyone's own code
if the text has no strays, and to a mismatch if it has some.
-/

set_option autoImplicit false

namespace Marginalia

open Highlight (Answers LineRenderer Outside blob strays strays_eq_zero_iff sentinel_ne_nil)
open Marginalia.Language (Profile)
open Segment (IsPartition Stretch isDoc isPartition_stretches map_code_segment sourceLines
  stretches)

variable {profile : Profile}

/-! ### Strays of a source text -/

/-- The lines that count are lines of the text. -/
theorem mem_lines_of_mem_sourceLines {source line : Text} (h : line ∈ sourceLines source) :
    line ∈ Text.lines source := by
  rw [sourceLines] at h
  split at h
  · cases h
  · rename_i first rest hlines
    rw [hlines]
    split at h
    · exact List.mem_cons_of_mem _ h
    · exact h

/-- The lines of a section's code are those of its stretch, and an empty
one. -/
theorem count_lines_unlines {source : Text} {part : Stretch Text}
    (h : part ∈ stretches (isDoc profile) (sourceLines source)) :
    (Text.lines (Text.unlines part.code)).count profile.sentinel
      = part.code.count profile.sentinel := by
  have hpartition := isPartition_stretches (isDoc profile) (sourceLines source)
  have honeLine : ∀ line ∈ part.code, '\n' ∉ line := by
    intro line hline
    have hmem : line ∈ sourceLines source := by
      rw [← hpartition.covers]
      exact List.mem_flatMap.mpr ⟨part, h, List.mem_append_right _ hline⟩
    exact Text.not_mem_of_mem_lines (mem_lines_of_mem_sourceLines hmem)
  have hempty : [([] : Text)].count profile.sentinel = 0 := by
    rw [List.count_eq_zero, List.mem_singleton]
    exact sentinel_ne_nil profile
  rw [Text.lines_unlines honeLine, List.count_append, hempty, Nat.add_zero]

/-- The strays of a file are its lines that are the sentinel, as far as
these are code. -/
theorem strays_segment (profile : Profile) (source : Text) :
    strays profile (profile.segment source)
      = ((sourceLines source).filter (!isDoc profile ·)).count profile.sentinel := by
  have hpartition := isPartition_stretches (isDoc profile) (sourceLines source)
  have hcodes : (profile.segment source).map
        (fun s => (Text.lines s.code).count profile.sentinel)
      = (stretches (isDoc profile) (sourceLines source)).map
          (fun part => part.code.count profile.sentinel) :=
    calc (profile.segment source).map (fun s => (Text.lines s.code).count profile.sentinel)
        = ((profile.segment source).map Section.code).map
            (fun code => (Text.lines code).count profile.sentinel) := by
          rw [List.map_map]
          rfl
      _ = (stretches (isDoc profile) (sourceLines source)).map
            (fun part => part.code.count profile.sentinel) := by
          rw [map_code_segment, List.map_map]
          exact List.map_congr_left fun part hpart => count_lines_unlines hpart
  rw [strays, List.count_flatMap, ← hpartition.flatMap_code, List.count_flatMap]
  exact congrArg List.sum hcodes

/-- Where the sentinel is documentation, there are no strays. -/
theorem strays_eq_zero_of_isDoc (h : isDoc profile profile.sentinel = true) (source : Text) :
    strays profile (profile.segment source) = 0 := by
  rw [strays_segment, List.count_eq_zero, List.mem_filter]
  rintro ⟨-, hcode⟩
  rw [h] at hcode
  cases hcode

/-- Where it is code, it makes a stray on any line but the first of a
text. The empty line in front keeps it from naming an interpreter. -/
theorem strays_ne_zero_of_not_isDoc (hsymbol : '\n' ∉ profile.firstSymbol)
    (h : isDoc profile profile.sentinel = false) :
    strays profile (profile.segment ('\n' :: profile.sentinel)) ≠ 0 := by
  have hlines : sourceLines ('\n' :: profile.sentinel) = [[], profile.sentinel] := by
    rw [sourceLines, Text.lines, Text.splitOn_cons_self,
      Text.splitOn_of_not_mem (Highlight.not_mem_sentinel hsymbol)]
    rfl
  have hmem : profile.sentinel ∈ ([[], profile.sentinel] : List Text).filter
      (!isDoc profile ·) := by
    rw [List.mem_filter]
    exact ⟨by simp, by rw [h]; rfl⟩
  rw [strays_segment, hlines]
  exact Nat.ne_of_gt (List.count_pos_iff.mpr hmem)

/-- A symbol that begins with a visible character fits its own
sentinel. -/
theorem isDoc_sentinel_of_visible (h : ∀ c ∈ profile.firstSymbol.head?, isBlank c = false) :
    isDoc profile profile.sentinel = true := by
  have hfirst : profile.firstSymbol ∈ profile.symbols := List.head_mem profile.hasSymbol
  have hne : profile.firstSymbol ≠ [] := by
    intro hnil
    have hvisible := profile.visible _ hfirst
    rw [hnil] at hvisible
    cases hvisible
  have hhead : ∀ c ∈ profile.sentinel.head?, isBlank c = false := by
    rw [Profile.sentinel, List.head?_append_of_ne_nil _ hne]
    exact h
  rw [isDoc, Segment.classify?, List.findSome?_isSome_iff]
  refine ⟨(.comment, profile.firstSymbol), ?_, ?_⟩
  · exact List.mem_cons_of_mem _ (List.mem_cons_of_mem _ (List.mem_map_of_mem hfirst))
  · have hfits : Text.after? profile.firstSymbol (Text.trimStart profile.sentinel)
        = some Profile.marker := by
      rw [Text.trimStart_of_visible hhead, Profile.sentinel, Text.after?_append]
    show (Option.map _ (Text.after? profile.firstSymbol _)).isSome = true
    rw [hfits]
    rfl

/-- The language takes its sentinel for documentation exactly when no
source text has a stray. -/
theorem no_stray_iff (hsymbol : '\n' ∉ profile.firstSymbol) :
    (∀ source, ∀ s ∈ profile.segment source, profile.sentinel ∉ Text.lines s.code)
      ↔ isDoc profile profile.sentinel = true := by
  constructor
  · intro h
    cases hdoc : isDoc profile profile.sentinel with
    | true => rfl
    | false =>
      exact absurd (strays_eq_zero_iff.mpr (h _)) (strays_ne_zero_of_not_isDoc hsymbol hdoc)
  · intro h source
    exact strays_eq_zero_iff.mp (strays_eq_zero_of_isDoc h source)

/-! ### Pages -/

namespace Documenter

/-- The page on which every section stands beside its own code, as a
line-wise highlighter writes it. -/
def ownPage (documenter : Documenter) (renderer : LineRenderer profile) (path : Path)
    (sections : List Section) : Text :=
  Page.render (Page.sourceName path) documenter.sources
    (sections.map fun s => row ⟨s, Highlight.marked (renderer.fragment s.code)⟩)

variable {documenter : Documenter} {outside : Outside} {path : Path} {source : Text}

/-- The page of a source text whose code is highlighted line by line. -/
theorem result_page_of_lineWise {renderer : LineRenderer profile}
    (hsymbol : '\n' ∉ profile.firstSymbol)
    (hlanguage : documenter.registry.resolve path = .ok profile)
    (hanswers : Answers outside documenter.highlighter profile
      (blob profile (profile.segment source))
      (Text.joinWith ['\n']
        ((Text.lines (blob profile (profile.segment source))).map renderer.render))) :
    (documenter.page outside path source).result
      = if strays profile (profile.segment source) = 0 then
          .ok (documenter.ownPage renderer path (profile.segment source))
        else
          .error (.highlight (.mismatch (profile.segment source).length
            ((profile.segment source).length
              + strays profile (profile.segment source) + 1))) := by
  rw [page_of_resolve hlanguage, result_pageIn,
    Highlight.highlightSections_of_lineWise hsymbol hanswers]
  split
  · -- Every section is zipped with its own fragment.
    rw [Highlight.withFragments, List.zipWith_map_right, List.zipWith_self]
    show Except.ok (Page.render _ _ ((List.map _ _).map row)) = _
    rw [List.map_map]
    rfl
  · rfl

end Documenter

/-- **When the sentinel is nobody's code.** Take a language whose first
comment symbol is on one line.

- No source text has a line of code that is the sentinel if and only if
  the language takes the sentinel for documentation. It does so when the
  symbol begins with a visible character.
- The blob of a source text has the sentinel once for each section and
  once for each stray.
- A line-wise highlighter leads to the page with everyone's own code if
  there are no strays. With `k > 0` strays in `n` sections the page fails
  with `n + k + 1` fragments. -/
theorem page_of_lineWise (profile : Profile) (hsymbol : '\n' ∉ profile.firstSymbol) :
    ((∀ source, ∀ s ∈ profile.segment source, profile.sentinel ∉ Text.lines s.code)
      ↔ isDoc profile profile.sentinel = true) ∧
    ((∀ c ∈ profile.firstSymbol.head?, isBlank c = false) →
      isDoc profile profile.sentinel = true) ∧
    ∀ source, (Text.lines (blob profile (profile.segment source))).count profile.sentinel
        = (profile.segment source).length + strays profile (profile.segment source) ∧
      ∀ (documenter : Documenter) (outside : Outside) (renderer : LineRenderer profile)
        (path : Path), documenter.registry.resolve path = .ok profile →
        Answers outside documenter.highlighter profile (blob profile (profile.segment source))
          (Text.joinWith ['\n']
            ((Text.lines (blob profile (profile.segment source))).map renderer.render)) →
        (documenter.page outside path source).result
          = if strays profile (profile.segment source) = 0 then
              .ok (documenter.ownPage renderer path (profile.segment source))
            else
              .error (.highlight (.mismatch (profile.segment source).length
                ((profile.segment source).length
                  + strays profile (profile.segment source) + 1))) :=
  ⟨no_stray_iff hsymbol, isDoc_sentinel_of_visible, fun _ =>
    ⟨Highlight.count_lines_blob hsymbol _, fun _ _ _ _ hlanguage hanswers =>
      Documenter.result_page_of_lineWise hsymbol hlanguage hanswers⟩⟩

/-! ### A symbol that fits and one that does not -/

/-- The documenter of one language, whose highlighter escapes. -/
def Documenter.escaping (profile : Profile) : Documenter where
  registry := Language.Registry.empty.register "src" profile
  highlighter := Highlight.escapingHighlighter profile
  output := ⟨"docs"⟩
  sources := []

/-- It answers the blob of any source line by line. -/
theorem answers_escaping (profile : Profile) (source : Text) :
    Answers .none (Documenter.escaping profile).highlighter profile
      (blob profile (profile.segment source))
      (Text.joinWith ['\n'] ((Text.lines (blob profile (profile.segment source))).map
        (LineRenderer.escaping profile).render)) :=
  Highlight.answers_wrapping profile (fun code => Text.joinWith ['\n']
    ((Text.lines code).map (LineRenderer.escaping profile).render)) _

/-- The sentinel as a comment, and as a part of a line of code. -/
def quotingText : Text := "  #DIVIDER\nx = '#DIVIDER'\n#DIVIDER\n"

theorem page_of_lineWise_quotingText :
    '\n' ∉ Highlight.hashLanguage.firstSymbol ∧
    (Documenter.escaping Highlight.hashLanguage).registry.resolve ⟨"a.src"⟩
      = .ok Highlight.hashLanguage ∧
    ((Documenter.escaping Highlight.hashLanguage).page .none ⟨"a.src"⟩ quotingText).result
      = .ok ((Documenter.escaping Highlight.hashLanguage).ownPage
          (LineRenderer.escaping Highlight.hashLanguage) ⟨"a.src"⟩
          (Highlight.hashLanguage.segment quotingText)) := by
  have hsymbol : '\n' ∉ Highlight.hashLanguage.firstSymbol := by decide
  have hlanguage : (Documenter.escaping Highlight.hashLanguage).registry.resolve ⟨"a.src"⟩
      = .ok Highlight.hashLanguage := by decide +kernel
  obtain ⟨hnone, hvisible, hpage⟩ := page_of_lineWise Highlight.hashLanguage hsymbol
  have hfirst : ∀ c ∈ Highlight.hashLanguage.firstSymbol.head?, isBlank c = false := by
    intro c hc
    cases hc
    decide
  have hcode := hnone.mpr (hvisible hfirst) quotingText
  refine ⟨hsymbol, hlanguage, ?_⟩
  rw [(hpage quotingText).2 (Documenter.escaping Highlight.hashLanguage) .none
      (LineRenderer.escaping Highlight.hashLanguage) ⟨"a.src"⟩ hlanguage
      (answers_escaping Highlight.hashLanguage quotingText),
    if_pos (strays_eq_zero_iff.mpr hcode)]

/-- A language whose comment symbol has a blank in front. -/
def indentedLanguage : Profile :=
  ⟨"text", [" #"], by decide, by decide, by decide⟩

/-- With a blank in front of the symbol the sentinel can be code, and
then the file has no page. -/
theorem straySentinel_refused :
    let source : Text := "x\n #DIVIDER\ny"
    Profile.ofDeclaration ⟨"text", [" #"]⟩ = .ok indentedLanguage ∧
    indentedLanguage.segment source = [⟨0, [], "x\n #DIVIDER\ny\n"⟩] ∧
    indentedLanguage.sentinel ∈ Text.lines "x\n #DIVIDER\ny\n" ∧
    Answers .none (Documenter.escaping indentedLanguage).highlighter indentedLanguage
      (blob indentedLanguage (indentedLanguage.segment source))
      (Text.joinWith ['\n'] ((Text.lines (blob indentedLanguage
        (indentedLanguage.segment source))).map
          (LineRenderer.escaping indentedLanguage).render)) ∧
    ((Documenter.escaping indentedLanguage).page .none ⟨"a.src"⟩ source).result
      = .error (.highlight (.mismatch 1 3)) :=
  ⟨by decide +kernel, by decide +kernel, by decide +kernel,
    answers_escaping indentedLanguage _, by decide +kernel⟩

end Marginalia
