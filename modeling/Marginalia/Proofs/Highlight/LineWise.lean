import Marginalia.Proofs.Highlight.Divider
import Marginalia.Proofs.Highlight.Fragments

/-!
# `Marginalia.Proofs.Highlight.LineWise`: line-wise highlighters

A line-wise highlighter turns every line of the code into markup of its
own. Its laws are the fields of `LineRenderer`: an empty line stays empty,
the sentinel becomes a comment span, and no other line comes to look like
one.

A lexer that is inside a string at a sentinel does not see a comment
there. `renderLosing` is the same rendering with such losses: for every
sentinel in the code, in order, it is told what the sentinel comes back
as. Without losses it is the rendering itself (`renderLosing_replicate`).

`joinWith_renderLosing` finds the groups in the rendered lines of a blob.
A sentinel that comes back closes the lines of its section; one that does
not leaves them to the section behind, or to the rest when there is
none.
-/

set_option autoImplicit false

namespace Marginalia.Highlight

open Marginalia.Language (Profile)

/-! ### The lines of a blob -/

/-- The blob begins with the first section's code and its sentinel. -/
theorem blob_cons (profile : Profile) (s : Section) (sections : List Section) :
    blob profile (s :: sections)
      = s.code ++ '\n' :: (profile.sentinel ++ '\n' :: blob profile sections) := by
  simp [blob, Profile.dividerToken]

/-- The lines of a blob: for every section those of its code and the
sentinel, and an empty one at the end. -/
theorem lines_blob_cons {profile : Profile} (hsymbol : '\n' ∉ profile.firstSymbol)
    (s : Section) (sections : List Section) :
    Text.lines (blob profile (s :: sections))
      = Text.lines s.code ++ profile.sentinel :: Text.lines (blob profile sections) := by
  rw [blob_cons, Text.lines, Text.splitOn_append_cons, Text.splitOn_append_cons,
    Text.splitOn_of_not_mem (not_mem_sentinel hsymbol)]
  rfl

/-! ### Line renderers -/

/-- How a line-wise highlighter writes the lines of one language. -/
structure LineRenderer (profile : Profile) where
  render : Text → Text
  render_nil : render [] = []
  render_sentinel : render profile.sentinel ∈ sentinelMarkups profile
  render_line : ∀ line, '\n' ∉ line → line ≠ profile.sentinel → PlainLine profile (render line)

namespace LineRenderer

variable {profile : Profile} (renderer : LineRenderer profile)

/-- The rendered lines of a section's code. -/
def codeLines (code : Text) : List Text :=
  (Text.lines code).map renderer.render

/-- The rendered lines of a section's code, joined, without the line feeds
at the end. -/
def fragment (code : Text) : Text :=
  (Text.joinWith ['\n'] (renderer.codeLines code)).rdropWhile (· = '\n')

/-- The lines rendered, where `lost` says for every sentinel in turn
whether it comes back as a comment (`none`) or as some other text. -/
def renderLosing : (lost : List (Option Text)) → (lines : List Text) → List Text
  | _, [] => []
  | lost, line :: lines =>
    if line = profile.sentinel then
      (lost.headD none).getD (renderer.render line) :: renderLosing lost.tail lines
    else renderer.render line :: renderLosing lost lines

/-- Lines without a sentinel are rendered as ever. -/
theorem renderLosing_append {front : List Text} (h : profile.sentinel ∉ front)
    (lost : List (Option Text)) (back : List Text) :
    renderer.renderLosing lost (front ++ back)
      = front.map renderer.render ++ renderer.renderLosing lost back := by
  induction front with
  | nil => rfl
  | cons line front ih =>
    obtain ⟨hline, hfront⟩ := List.ne_and_not_mem_of_not_mem_cons h
    rw [List.cons_append, renderLosing, if_neg (Ne.symm hline), ih hfront]
    rfl

/-- A sentinel comes back as it is told. -/
theorem renderLosing_sentinel (fate : Option Text) (lost : List (Option Text))
    (back : List Text) :
    renderer.renderLosing (fate :: lost) (profile.sentinel :: back)
      = fate.getD (renderer.render profile.sentinel) :: renderer.renderLosing lost back := by
  rw [renderLosing, if_pos rfl]
  rfl

/-- Where no sentinel is lost, every line is rendered as ever. -/
theorem renderLosing_replicate (n : Nat) (lines : List Text) :
    renderer.renderLosing (List.replicate n none) lines = lines.map renderer.render := by
  induction lines generalizing n with
  | nil => rfl
  | cons line lines ih =>
    have hfate : (List.replicate n (none : Option Text)).headD none = none := by
      cases n <;> rfl
    rw [renderLosing, hfate, List.tail_replicate, ih, ih]
    simp

/-- Every line is rendered as one. -/
theorem renderLosing_ne_nil {lost : List (Option Text)} {lines : List Text} (h : lines ≠ []) :
    renderer.renderLosing lost lines ≠ [] := by
  obtain ⟨line, rest, rfl⟩ := List.exists_cons_of_ne_nil h
  rw [renderLosing]
  split <;> exact List.cons_ne_nil _ _

/-- The lines of a section's code are plain when they are rendered and
none of them is a sentinel. -/
theorem plainLine_codeLines {code : Text} (h : profile.sentinel ∉ Text.lines code) :
    ∀ line ∈ renderer.codeLines code, PlainLine profile line := by
  intro rendered hrendered
  obtain ⟨line, hline, rfl⟩ := List.mem_map.mp hrendered
  exact renderer.render_line line (Text.not_mem_of_mem_lines hline) (fun heq => h (heq ▸ hline))

/-! ### The groups of a rendered blob -/

/-- Lines put in front of groups and a rest: they belong to the first
group, or to the rest where there is no group. -/
def prepend (lines : List Text) : List Group × List Text → List Group × List Text
  | ([], rest) => ([], lines ++ rest)
  | (group :: groups, rest) => ({ group with lines := lines ++ group.lines } :: groups, rest)

/-- The groups of the rendered sections and the lines behind the last
group. A sentinel that is lost closes no group. -/
def groups : List (Section × Option Text) → List Group × List Text
  | [] => ([], [])
  | (s, none) :: returned =>
    (⟨renderer.codeLines s.code, renderer.render profile.sentinel⟩ :: (groups returned).1,
      (groups returned).2)
  | (s, some text) :: returned => prepend (renderer.codeLines s.code ++ [text]) (groups returned)

/-- The text of groups and of the lines behind them. -/
def groupsText (found : List Group × List Text) : Text :=
  found.1.flatMap Group.text ++ Text.unlines found.2

/-- Lines put in front stand in front of the text. -/
theorem groupsText_prepend (lines : List Text) (found : List Group × List Text) :
    groupsText (prepend lines found) = Text.unlines lines ++ groupsText found := by
  obtain ⟨_ | ⟨group, groups⟩, rest⟩ := found <;>
    simp [prepend, groupsText, Group.text, Text.unlines]

/-- A rendered blob is the text of its groups. -/
theorem joinWith_renderLosing (hsymbol : '\n' ∉ profile.firstSymbol) {sections : List Section}
    (hcode : ∀ s ∈ sections, profile.sentinel ∉ Text.lines s.code)
    {lost : List (Option Text)} (hlength : lost.length = sections.length) :
    Text.joinWith ['\n'] (renderer.renderLosing lost (Text.lines (blob profile sections)))
      = groupsText (renderer.groups (sections.zip lost)) := by
  induction sections generalizing lost with
  | nil =>
    -- A blob without sections still has a line, the empty one.
    have hempty : Text.lines (blob profile []) = [[]] ++ [] := rfl
    have hsentinel : profile.sentinel ∉ [([] : Text)] := by
      rw [List.mem_singleton]
      exact sentinel_ne_nil profile
    rw [hempty, renderer.renderLosing_append hsentinel, List.map_singleton, renderer.render_nil]
    rfl
  | cons s sections ih =>
    obtain ⟨fate, lost, rfl⟩ := List.exists_cons_of_length_eq_add_one hlength
    -- Behind a sentinel there is always a line, so the sentinel's own ends in a line feed.
    have hbehind : renderer.renderLosing lost (Text.lines (blob profile sections)) ≠ [] :=
      renderer.renderLosing_ne_nil (Text.splitOn_ne_nil _ _)
    rw [lines_blob_cons hsymbol, renderer.renderLosing_append (hcode s List.mem_cons_self),
      renderer.renderLosing_sentinel, List.append_cons, Text.joinWith_append _ _ hbehind,
      ih (fun t ht => hcode t (List.mem_cons_of_mem _ ht)) (Nat.succ.inj hlength)]
    cases fate with
    | none => simp [groups, groupsText, Group.text, Text.unlines, codeLines]
    | some text =>
      rw [List.zip_cons_cons, groups, groupsText_prepend]
      rfl

/-- The lines of the groups and those behind them are plain, and every
group is closed by a sentinel. -/
structure WellFormed (profile : Profile) (found : List Group × List Text) : Prop where
  groups : ∀ group ∈ found.1, group.WellFormed profile
  rest : ∀ line ∈ found.2, PlainLine profile line

/-- Plain lines may be put in front. -/
theorem wellFormed_prepend {lines : List Text} {found : List Group × List Text}
    (hlines : ∀ line ∈ lines, PlainLine profile line) (hfound : WellFormed profile found) :
    WellFormed profile (prepend lines found) := by
  obtain ⟨hgroups, hrest⟩ := hfound
  obtain ⟨_ | ⟨group, groups⟩, rest⟩ := found
  · refine ⟨by simp [prepend], fun line hline => ?_⟩
    rcases List.mem_append.mp hline with hline | hline
    · exact hlines line hline
    · exact hrest line hline
  · obtain ⟨⟨hplain, hmarkup⟩, hlater⟩ := List.forall_mem_cons.mp hgroups
    refine ⟨List.forall_mem_cons.mpr ⟨⟨fun line hline => ?_, hmarkup⟩, hlater⟩, hrest⟩
    rcases List.mem_append.mp hline with hline | hline
    · exact hlines line hline
    · exact hplain line hline

/-- The groups of rendered sections are well-formed when no code holds a
sentinel and every lost one comes back as a plain line. -/
theorem wellFormed_groups {returned : List (Section × Option Text)}
    (hcode : ∀ s ∈ returned.map (·.1), profile.sentinel ∉ Text.lines s.code)
    (hlost : ∀ text, some text ∈ returned.map (·.2) → PlainLine profile text) :
    WellFormed profile (renderer.groups returned) := by
  induction returned with
  | nil => exact ⟨by simp [groups], by simp [groups]⟩
  | cons first returned ih =>
    obtain ⟨s, fate⟩ := first
    have hplain := renderer.plainLine_codeLines (hcode s List.mem_cons_self)
    have hlater := ih (fun t ht => hcode t (List.mem_cons_of_mem _ ht))
      (fun text ht => hlost text (List.mem_cons_of_mem _ ht))
    cases fate with
    | none =>
      exact ⟨List.forall_mem_cons.mpr ⟨⟨hplain, renderer.render_sentinel⟩, hlater.groups⟩,
        hlater.rest⟩
    | some text =>
      -- What the lost sentinel came back as is one more line in front.
      refine wellFormed_prepend (fun line hline => ?_) hlater
      rcases List.mem_append.mp hline with hline | hline
      · exact hplain line hline
      · rw [List.mem_singleton.mp hline]
        exact hlost text List.mem_cons_self

/-! ### The renderer that only escapes -/

/-- An escaped line is plain. -/
theorem plainLine_escape (profile : Profile) {line : Text} (h : '\n' ∉ line) :
    PlainLine profile (Text.escape line) := by
  refine ⟨Text.lineFeed_not_mem_escape h, fun markup hmarkup hin => ?_⟩
  have hlt : '<' ∈ markup := by
    rw [sentinelMarkups_eq] at hmarkup
    obtain ⟨span, -, rfl⟩ := List.mem_map.mp hmarkup
    exact List.mem_cons_self
  exact Text.lt_not_mem_escape line (hin.subset hlt)

/-- The renderer that writes the sentinel as a comment and escapes every
other line. -/
def escaping (profile : Profile) : LineRenderer profile where
  render line :=
    if line = profile.sentinel then sentinelMarkup profile "c1" else Text.escape line
  render_nil := by
    rw [if_neg (Ne.symm (sentinel_ne_nil profile))]
    rfl
  render_sentinel := by
    rw [if_pos rfl]
    exact List.mem_cons_self
  render_line line hline hne := by
    rw [if_neg hne]
    exact plainLine_escape profile hline

end LineRenderer

end Marginalia.Highlight
