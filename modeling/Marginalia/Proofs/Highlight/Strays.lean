import Marginalia.Proofs.Highlight.LostSentinels

/-!
# `Marginalia.Proofs.Highlight.Strays`: sentinels in the code itself

A line of code that is the sentinel is a stray. A highlighter cannot tell
it from the sentinels that were put between the sections, so it comes
back as a divider too. `highlightSections_of_lineWise` says what becomes
of it. Let a blob of `n` sections have `k` strays, and let it be
highlighted line by line. For `k = 0` every section gets its own code.
For `k > 0` there are `n + k` dividers, and the result is a mismatch.

A stray closes a group in the middle of a section, so the groups of a
rendered blob are found line by line here (`groupsOf`), and not section
by section.
-/

set_option autoImplicit false

namespace Marginalia.Highlight

open Marginalia.Language (Profile)

/-- The lines of a blob but the last one, which is empty. -/
def blobLines (profile : Profile) (sections : List Section) : List Text :=
  sections.flatMap fun s => Text.lines s.code ++ [profile.sentinel]

/-- The number of lines of code that are the sentinel. -/
def strays (profile : Profile) (sections : List Section) : Nat :=
  (sections.flatMap fun s => Text.lines s.code).count profile.sentinel

variable {profile : Profile}

theorem lines_blob (hsymbol : '\n' ∉ profile.firstSymbol) (sections : List Section) :
    Text.lines (blob profile sections) = blobLines profile sections ++ [[]] := by
  induction sections with
  | nil => rfl
  | cons s sections ih =>
    rw [lines_blob_cons hsymbol, ih]
    simp [blobLines]

/-- No line of a blob has a line feed in it. -/
theorem not_mem_of_mem_blobLines (hsymbol : '\n' ∉ profile.firstSymbol)
    {sections : List Section} {line : Text} (h : line ∈ blobLines profile sections) :
    '\n' ∉ line := by
  have hlines : line ∈ Text.lines (blob profile sections) := by
    rw [lines_blob hsymbol]
    exact List.mem_append_left _ h
  exact Text.not_mem_of_mem_lines hlines

/-- Among the lines of a blob there is one sentinel for each section, and
the strays. -/
theorem count_blobLines (profile : Profile) (sections : List Section) :
    (blobLines profile sections).count profile.sentinel
      = sections.length + strays profile sections := by
  induction sections with
  | nil => rfl
  | cons s sections ih =>
    have hcons : blobLines profile (s :: sections)
        = Text.lines s.code ++ profile.sentinel :: blobLines profile sections := by
      simp [blobLines]
    have hstrays : strays profile (s :: sections)
        = (Text.lines s.code).count profile.sentinel + strays profile sections := by
      rw [strays, List.flatMap_cons, List.count_append]
      rfl
    rw [hcons, List.count_append, List.count_cons_self, ih, hstrays, List.length_cons]
    omega

/-- The last line of a blob is no sentinel. -/
theorem count_lines_blob (hsymbol : '\n' ∉ profile.firstSymbol) (sections : List Section) :
    (Text.lines (blob profile sections)).count profile.sentinel
      = sections.length + strays profile sections := by
  have hempty : [([] : Text)].count profile.sentinel = 0 := by
    rw [List.count_eq_zero, List.mem_singleton]
    exact sentinel_ne_nil profile
  rw [lines_blob hsymbol, List.count_append, hempty, Nat.add_zero, count_blobLines]

/-- Without strays no section's code has a sentinel. -/
theorem strays_eq_zero_iff {sections : List Section} :
    strays profile sections = 0 ↔ ∀ s ∈ sections, profile.sentinel ∉ Text.lines s.code := by
  rw [strays, List.count_eq_zero, List.mem_flatMap]
  constructor
  · intro h s hs hcode
    exact h ⟨s, hs, hcode⟩
  · rintro h ⟨s, hs, hcode⟩
    exact h s hs hcode

/-! ### The groups of rendered lines -/

namespace LineRenderer

variable (renderer : LineRenderer profile)

/-- The groups of rendered lines, and the lines behind the last group.
Every sentinel closes a group, wherever it comes from. -/
def groupsOf : (lines : List Text) → List Group × List Text
  | [] => ([], [])
  | line :: lines =>
    if line = profile.sentinel then
      (⟨[], renderer.render line⟩ :: (groupsOf lines).1, (groupsOf lines).2)
    else prepend [renderer.render line] (groupsOf lines)

theorem groupsOf_sentinel (lines : List Text) :
    renderer.groupsOf (profile.sentinel :: lines)
      = (⟨[], renderer.render profile.sentinel⟩ :: (renderer.groupsOf lines).1,
        (renderer.groupsOf lines).2) :=
  if_pos rfl

theorem groupsOf_of_ne {line : Text} (h : line ≠ profile.sentinel) (lines : List Text) :
    renderer.groupsOf (line :: lines)
      = prepend [renderer.render line] (renderer.groupsOf lines) :=
  if_neg h

/-- The text of the groups is that of the rendered lines. -/
theorem groupsText_groupsOf (lines : List Text) :
    groupsText (renderer.groupsOf lines) = Text.unlines (lines.map renderer.render) := by
  induction lines with
  | nil => rfl
  | cons line lines ih =>
    by_cases h : line = profile.sentinel
    · subst h
      rw [groupsOf_sentinel, List.map_cons]
      simp only [groupsText, List.flatMap_cons, List.append_assoc]
      rw [groupsText] at ih
      rw [ih]
      simp [Group.text, Text.unlines]
    · rw [renderer.groupsOf_of_ne h, groupsText_prepend, ih]
      simp [Text.unlines]

/-- There is a group for every sentinel. -/
theorem length_groupsOf (lines : List Text) :
    (renderer.groupsOf lines).1.length = lines.count profile.sentinel := by
  induction lines with
  | nil => rfl
  | cons line lines ih =>
    by_cases h : line = profile.sentinel
    · subst h
      rw [groupsOf_sentinel, List.length_cons, ih, List.count_cons_self]
    · rw [renderer.groupsOf_of_ne h, length_prepend, ih, List.count_cons_of_ne h]

/-- The groups consist of plain lines and are closed by sentinels. -/
theorem wellFormed_groupsOf {lines : List Text} (h : ∀ line ∈ lines, '\n' ∉ line) :
    WellFormed profile (renderer.groupsOf lines) := by
  induction lines with
  | nil => exact ⟨by simp [groupsOf], by simp [groupsOf]⟩
  | cons line lines ih =>
    have hlater := ih (fun l hl => h l (List.mem_cons_of_mem _ hl))
    by_cases hline : line = profile.sentinel
    · subst hline
      rw [groupsOf_sentinel]
      have hgroup : Group.WellFormed profile ⟨[], renderer.render profile.sentinel⟩ :=
        ⟨by simp, renderer.render_sentinel⟩
      exact ⟨List.forall_mem_cons.mpr ⟨hgroup, hlater.groups⟩, hlater.rest⟩
    · rw [renderer.groupsOf_of_ne hline]
      refine wellFormed_prepend (fun rendered hrendered => ?_) hlater
      rw [List.mem_singleton.mp hrendered]
      exact renderer.render_line line (h line List.mem_cons_self) hline

/-- Lines up to a sentinel are a group when none of them is one. -/
theorem groupsOf_append {front : List Text} (h : profile.sentinel ∉ front) (back : List Text) :
    renderer.groupsOf (front ++ profile.sentinel :: back)
      = (⟨front.map renderer.render, renderer.render profile.sentinel⟩
          :: (renderer.groupsOf back).1,
        (renderer.groupsOf back).2) := by
  induction front with
  | nil => exact renderer.groupsOf_sentinel back
  | cons line front ih =>
    obtain ⟨hline, hfront⟩ := List.ne_and_not_mem_of_not_mem_cons h
    rw [List.cons_append, renderer.groupsOf_of_ne (Ne.symm hline), ih hfront]
    rfl

/-- Without strays the groups are the sections. -/
theorem groupsOf_blobLines {sections : List Section}
    (h : ∀ s ∈ sections, profile.sentinel ∉ Text.lines s.code) :
    renderer.groupsOf (blobLines profile sections) = (sections.map renderer.group, []) := by
  induction sections with
  | nil => rfl
  | cons s sections ih =>
    have hcons : blobLines profile (s :: sections)
        = Text.lines s.code ++ profile.sentinel :: blobLines profile sections := by
      simp [blobLines]
    rw [hcons, renderer.groupsOf_append (h s List.mem_cons_self),
      ih (fun t ht => h t (List.mem_cons_of_mem _ ht))]
    rfl

/-- A rendered blob is cut into the fragments of its groups and the lines
behind them. -/
theorem parts_blob (hsymbol : '\n' ∉ profile.firstSymbol) (sections : List Section) :
    parts profile (Text.joinWith ['\n']
        ((Text.lines (blob profile sections)).map renderer.render))
      = (renderer.groupsOf (blobLines profile sections)).1.map Group.fragment
        ++ [Text.unlines (renderer.groupsOf (blobLines profile sections)).2] := by
  have hlines : ∀ line ∈ blobLines profile sections, '\n' ∉ line := fun _ hline =>
    not_mem_of_mem_blobLines hsymbol hline
  have hwell := renderer.wellFormed_groupsOf hlines
  have htext : Text.joinWith ['\n'] ((Text.lines (blob profile sections)).map renderer.render)
      = groupsText (renderer.groupsOf (blobLines profile sections)) := by
    -- The empty last line stays empty, so all lines of the blob end in a line feed.
    rw [lines_blob hsymbol, List.map_append, List.map_singleton, renderer.render_nil,
      Text.joinWith_append _ _ (List.cons_ne_nil _ _), groupsText_groupsOf]
    exact List.append_nil _
  rw [htext, groupsText]
  exact parts_groups hsymbol hwell.groups hwell.rest

end LineRenderer

/-! ### What becomes of the sections -/

variable {renderer : LineRenderer profile} {sections : List Section} {markup : Text}

/-- Without strays there is a fragment for each section. -/
theorem fragments_of_no_strays (hsymbol : '\n' ∉ profile.firstSymbol)
    (hmarkup : unwrap markup = Text.joinWith ['\n']
      ((Text.lines (blob profile sections)).map renderer.render))
    (h : strays profile sections = 0) :
    fragments profile markup sections.length
      = .ok (sections.map fun s => renderer.fragment s.code) := by
  have hparts : parts profile (unwrap markup)
      = sections.map (fun s => renderer.fragment s.code) ++ [[]] := by
    rw [hmarkup, renderer.parts_blob hsymbol,
      renderer.groupsOf_blobLines (strays_eq_zero_iff.mp h), List.map_map]
    rfl
  exact fragments_of_closed hparts (List.length_map _) rfl

/-- With strays there are too many. -/
theorem fragments_of_strays (hsymbol : '\n' ∉ profile.firstSymbol)
    (hmarkup : unwrap markup = Text.joinWith ['\n']
      ((Text.lines (blob profile sections)).map renderer.render))
    (h : strays profile sections ≠ 0) :
    fragments profile markup sections.length
      = .error (.mismatch sections.length
          (sections.length + strays profile sections + 1)) := by
  have hparts := renderer.parts_blob hsymbol sections
  rw [← hmarkup] at hparts
  have hlength : ((renderer.groupsOf (blobLines profile sections)).1.map Group.fragment).length
      = sections.length + strays profile sections := by
    rw [List.length_map, renderer.length_groupsOf, count_blobLines]
  rw [fragments_of_ne hparts (by omega) (by omega), hlength]

/-- Sections that are highlighted line by line get their own code if
there are no strays, and none gets any code if there are some. -/
theorem highlightSections_of_lineWise {outside : Outside} {highlighter : Highlighter}
    (hsymbol : '\n' ∉ profile.firstSymbol)
    (hanswers : Answers outside highlighter profile (blob profile sections)
      (Text.joinWith ['\n'] ((Text.lines (blob profile sections)).map renderer.render))) :
    (highlightSections outside highlighter profile sections).result
      = if strays profile sections = 0 then
          .ok (withFragments sections (sections.map fun s => renderer.fragment s.code))
        else
          .error (.mismatch sections.length
            (sections.length + strays profile sections + 1)) := by
  obtain ⟨markup, hrun, hwraps⟩ := hanswers
  have hmarkup := unwrap_of_wraps hwraps
  rw [result_highlightSections hrun]
  split
  · rename_i hnone
    exact attach_of_fragments (fragments_of_no_strays hsymbol hmarkup hnone)
  · rename_i hsome
    rw [attach, fragments_of_strays hsymbol hmarkup hsome]
    rfl

end Marginalia.Highlight
