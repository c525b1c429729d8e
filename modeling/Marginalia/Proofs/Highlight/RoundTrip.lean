import Marginalia.Proofs.Highlight.LineWise

/-!
# `Marginalia.Proofs.Highlight.RoundTrip`: every section gets its own code

All code of a file is highlighted in one go and cut apart again. With a
line-wise highlighter this is a round trip: `ownFragments_of_lineWise`
says that the run succeeds and that the markup of a section is made of
the rendered lines of its own code and of nothing else.

`parts_renderLosing` is the step behind it, for answers in which
sentinels may be lost: the fragments are those of the groups of the
rendered blob, followed by the lines behind the last group.
-/

set_option autoImplicit false

namespace Marginalia.Highlight

open Marginalia.Language (Profile)

variable {profile : Profile}

/-- The highlighter answers the code with `body` as the markup inside the
wrapper. -/
def Answers (outside : Outside) (highlighter : Highlighter) (profile : Profile)
    (code body : Text) : Prop :=
  ∃ markup, (highlighter.run outside profile.name code).result = .ok markup ∧ Wraps body markup

/-- The markup of a section whose fragment is `fragment`. -/
def marked (fragment : Text) : Text :=
  "<div class=\"highlight\"><pre>" ++ fragment ++ "</pre></div>"

/-- The sections, each with the markup of one fragment. -/
def withFragments (sections : List Section) (found : List Text) : List HighlightedSection :=
  List.zipWith (fun s fragment => ⟨s, marked fragment⟩) sections found

/-- What is attached is decided by the fragments of the answer. -/
theorem attach_of_fragments {sections : List Section} {markup : Text} {found : List Text}
    (h : fragments profile markup sections.length = .ok found) :
    attach profile sections markup = .ok (withFragments sections found) := by
  rw [attach, h]
  rfl

/-- The fragments of sections whose sentinels come back as they do: one
for each group, and the lines behind the last. -/
def returnedParts (renderer : LineRenderer profile) (returned : List (Section × Option Text)) :
    List Text :=
  (renderer.groups returned).1.map Group.fragment
    ++ [Text.unlines (renderer.groups returned).2]

/-- A blob that was rendered line by line is cut into the fragments of
its sections as they come back. -/
theorem parts_renderLosing (renderer : LineRenderer profile)
    (hsymbol : '\n' ∉ profile.firstSymbol) {sections : List Section}
    (hcode : ∀ s ∈ sections, profile.sentinel ∉ Text.lines s.code)
    {lost : List (Option Text)} (hlength : lost.length = sections.length)
    (hlost : ∀ text, some text ∈ lost → PlainLine profile text) :
    parts profile (Text.joinWith ['\n']
        (renderer.renderLosing lost (Text.lines (blob profile sections))))
      = returnedParts renderer (sections.zip lost) := by
  have hfst : (sections.zip lost).map Prod.fst = sections :=
    List.map_fst_zip (Nat.le_of_eq hlength.symm)
  have hsnd : (sections.zip lost).map Prod.snd = lost := List.map_snd_zip (Nat.le_of_eq hlength)
  have hwell : LineRenderer.WellFormed profile (renderer.groups (sections.zip lost)) :=
    renderer.wellFormed_groups (by rwa [hfst]) (by rwa [hsnd])
  rw [renderer.joinWith_renderLosing hsymbol hcode hlength]
  exact parts_groups hsymbol hwell.groups hwell.rest

/-- A section as a group of its own. -/
def LineRenderer.group (renderer : LineRenderer profile) (s : Section) : Group :=
  ⟨renderer.codeLines s.code, renderer.render profile.sentinel⟩

/-- Sections in front whose sentinels come back are groups of their
own. -/
theorem groups_kept_append (renderer : LineRenderer profile) (front : List Section)
    (returned : List (Section × Option Text)) :
    renderer.groups (front.zip (List.replicate front.length none) ++ returned)
      = (front.map renderer.group ++ (renderer.groups returned).1,
        (renderer.groups returned).2) := by
  induction front with
  | nil => rfl
  | cons s front ih =>
    rw [List.length_cons, List.replicate_succ, List.zip_cons_cons, List.cons_append,
      LineRenderer.groups, ih]
    rfl

/-- Sections whose sentinels all come back are groups of their own, and
nothing is left behind. -/
theorem groups_kept (renderer : LineRenderer profile) (sections : List Section) :
    renderer.groups (sections.zip (List.replicate sections.length none))
      = (sections.map renderer.group, []) := by
  have happend := groups_kept_append renderer sections []
  simpa [LineRenderer.groups] using happend

/-- **The round trip.** Take sections whose code has no line that is the
sentinel, and a highlighter that answers their blob line by line. Then
every section gets the rendered lines of its own code, joined again,
without the line feeds at the end and in the wrapper. -/
theorem ownFragments_of_lineWise (outside : Outside) (highlighter : Highlighter)
    (renderer : LineRenderer profile) (sections : List Section)
    (hsymbol : '\n' ∉ profile.firstSymbol)
    (hcode : ∀ s ∈ sections, profile.sentinel ∉ Text.lines s.code)
    (hanswers : Answers outside highlighter profile (blob profile sections)
      (Text.joinWith ['\n'] ((Text.lines (blob profile sections)).map renderer.render))) :
    (highlightSections outside highlighter profile sections).result
      = .ok (sections.map fun s =>
          ⟨s, "<div class=\"highlight\"><pre>" ++ renderer.fragment s.code ++ "</pre></div>"⟩) := by
  obtain ⟨markup, hrun, hwraps⟩ := hanswers
  have hparts : parts profile (unwrap markup)
      = sections.map (fun s => renderer.fragment s.code) ++ [[]] := by
    rw [unwrap_of_wraps hwraps, ← renderer.renderLosing_replicate sections.length,
      parts_renderLosing renderer hsymbol hcode List.length_replicate
        (fun text htext => by cases List.eq_of_mem_replicate htext),
      returnedParts, groups_kept, List.map_map]
    rfl
  have hfound := fragments_of_closed hparts (List.length_map _) rfl
  rw [result_highlightSections hrun, attach_of_fragments hfound, withFragments,
    List.zipWith_map_right, List.zipWith_self]
  rfl

/-! ### A round trip -/

/-- The highlighter that puts `body` of the code into the wrapper. -/
def wrapping (body : Text → Text) : Highlighter :=
  .given "wrapping" "wrapping" fun _ code =>
    .ok (codeOpen ++ emptySpan ++ body code ++ codeClose ++ ['\n'])

/-- It answers the code with that body. -/
theorem answers_wrapping (profile : Profile) (body : Text → Text) (code : Text) :
    Answers .none (wrapping body) profile code (body code) :=
  ⟨_, rfl, .marked ['\n'] (by decide)⟩

/-- A language whose comment symbol is written with markup characters. -/
def markupLanguage : Profile :=
  ⟨"html", ["<!--"], by decide, by decide, by decide⟩

/-- Sections without code, with blank lines only, and with a line that
only resembles the sentinel. -/
def unevenSections : List Section :=
  [⟨0, [], []⟩, ⟨1, [], "\n\n"⟩, ⟨2, [], "\na < b\n<!--DIVIDER \n\n"⟩]

/-- A highlighter that escapes the lines of a language. -/
def escapingHighlighter (profile : Profile) : Highlighter :=
  wrapping fun code =>
    Text.joinWith ['\n'] ((Text.lines code).map (LineRenderer.escaping profile).render)

theorem ownFragments_of_unevenSections :
    '\n' ∉ markupLanguage.firstSymbol ∧
    (∀ s ∈ unevenSections, markupLanguage.sentinel ∉ Text.lines s.code) ∧
    Answers .none (escapingHighlighter markupLanguage) markupLanguage
      (blob markupLanguage unevenSections)
      (Text.joinWith ['\n'] ((Text.lines (blob markupLanguage unevenSections)).map
        (LineRenderer.escaping markupLanguage).render)) ∧
    (highlightSections .none (escapingHighlighter markupLanguage) markupLanguage
        unevenSections).result
      = .ok [⟨⟨0, [], []⟩, "<div class=\"highlight\"><pre></pre></div>"⟩,
        ⟨⟨1, [], "\n\n"⟩, "<div class=\"highlight\"><pre></pre></div>"⟩,
        ⟨⟨2, [], "\na < b\n<!--DIVIDER \n\n"⟩,
          "<div class=\"highlight\"><pre>\na &lt; b\n&lt;!--DIVIDER </pre></div>"⟩] := by
  have hsymbol : '\n' ∉ markupLanguage.firstSymbol := by decide
  have hcode : ∀ s ∈ unevenSections, markupLanguage.sentinel ∉ Text.lines s.code := by decide
  have hanswers := answers_wrapping markupLanguage (fun code => Text.joinWith ['\n']
    ((Text.lines code).map (LineRenderer.escaping markupLanguage).render))
    (blob markupLanguage unevenSections)
  refine ⟨hsymbol, hcode, hanswers, ?_⟩
  rw [ownFragments_of_lineWise .none (escapingHighlighter markupLanguage) _ _ hsymbol hcode
    hanswers]
  decide

end Marginalia.Highlight
