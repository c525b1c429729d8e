import Marginalia.Proofs.Highlight.RoundTrip

/-!
# `Marginalia.Proofs.Highlight.LostSentinels`: sentinels that do not come back

A sentinel that does not come back as a comment is a divider less, and
the number of fragments tells. `lostSentinels_detected_iff` says how far
this goes. Let `k > 0` sentinels of `n` sections be lost. The result is a
mismatch exactly when `k ≠ 1`. One lost sentinel is not noticed: a
divider follows the last section too, so there are `n` dividers for `n`
sections, and with one of them gone the rest behind the last makes up the
number. Then the lines of two sections are one fragment, and every section
behind these gets the code of the next one (`shiftedFragments`).

The count of groups is `length_groups`. The rest of the file takes apart
the case of one loss.
-/

set_option autoImplicit false

namespace Marginalia.Highlight

open Marginalia.Language (Profile)

variable {profile : Profile}

/-! ### Counting -/

/-- Lines in front make no group of their own. -/
theorem length_prepend (lines : List Text) (found : List Group × List Text) :
    (LineRenderer.prepend lines found).1.length = found.1.length := by
  obtain ⟨_ | ⟨group, groups⟩, rest⟩ := found <;> rfl

/-- Every section closes a group or has lost its sentinel. -/
theorem length_groups (renderer : LineRenderer profile)
    (returned : List (Section × Option Text)) :
    (renderer.groups returned).1.length + (returned.map (·.2)).countP Option.isSome
      = returned.length := by
  induction returned with
  | nil => rfl
  | cons first returned ih =>
    obtain ⟨s, _ | text⟩ := first
    -- A sentinel that comes back is one more group; a lost one is one more loss and no group.
    · have hcount : (((s, none) :: returned).map (·.2)).countP Option.isSome
          = (returned.map (·.2)).countP Option.isSome := by
        simp
      rw [hcount, LineRenderer.groups, List.length_cons, List.length_cons]
      omega
    · have hcount : (((s, some text) :: returned).map (·.2)).countP Option.isSome
          = (returned.map (·.2)).countP Option.isSome + 1 := by
        simp
      rw [hcount, LineRenderer.groups, length_prepend, List.length_cons]
      omega

/-! ### One loss -/

/-- Where no sentinel is lost, all come back. -/
theorem eq_replicate_of_countP_eq_zero {lost : List (Option Text)}
    (h : lost.countP Option.isSome = 0) : lost = List.replicate lost.length none := by
  refine List.eq_replicate_iff.mpr ⟨rfl, fun fate hfate => ?_⟩
  have hnone := List.countP_eq_zero.mp h fate hfate
  simpa using hnone

/-- Where one sentinel is lost, there are the sections in front of it and
those behind. -/
theorem exists_split_of_countP_eq_one {sections : List Section} {lost : List (Option Text)}
    (hlength : lost.length = sections.length) (h : lost.countP Option.isSome = 1) :
    ∃ front s text behind, sections = front ++ s :: behind ∧
      lost = List.replicate front.length none
        ++ some text :: List.replicate behind.length none := by
  induction sections generalizing lost with
  | nil =>
    rw [List.length_eq_zero_iff.mp hlength] at h
    cases h
  | cons s sections ih =>
    obtain ⟨fate, lost, rfl⟩ := List.exists_cons_of_length_eq_add_one hlength
    have hrest : lost.length = sections.length := Nat.succ.inj hlength
    cases fate with
    | none =>
      -- The loss is further back.
      obtain ⟨front, t, text, behind, rfl, rfl⟩ := ih hrest (by simpa using h)
      exact ⟨s :: front, t, text, behind, rfl, rfl⟩
    | some text =>
      -- This is the loss, so there is none behind it.
      have hkept : lost = List.replicate lost.length none :=
        eq_replicate_of_countP_eq_zero (by simpa using h)
      refine ⟨[], s, text, sections, rfl, ?_⟩
      rw [← hrest, ← hkept]
      rfl

/-- The fragments of a section whose sentinel comes back as `text` and of
the sections behind it. It shares a fragment with the next section, and
nothing is left for the last. -/
def shiftedFragments (renderer : LineRenderer profile) (s : Section) (text : Text) :
    (behind : List Section) → List Text
  | [] => [Text.unlines (renderer.codeLines s.code ++ [text])]
  | next :: behind =>
    (Text.joinWith ['\n']
        (renderer.codeLines s.code ++ text :: renderer.codeLines next.code)).rdropWhile (· = '\n')
      :: behind.map (fun t => renderer.fragment t.code) ++ [[]]

/-- The fragments of all sections, where one sentinel is lost. -/
theorem returnedParts_of_one_lost (renderer : LineRenderer profile)
    (front : List Section) (s : Section) (text : Text) (behind : List Section) :
    returnedParts renderer ((front ++ s :: behind).zip
        (List.replicate front.length none ++ some text :: List.replicate behind.length none))
      = front.map (fun t => renderer.fragment t.code)
        ++ shiftedFragments renderer s text behind := by
  have hzip : (front ++ s :: behind).zip
        (List.replicate front.length none ++ some text :: List.replicate behind.length none)
      = front.zip (List.replicate front.length none)
        ++ (s, some text) :: behind.zip (List.replicate behind.length none) :=
    List.zip_append List.length_replicate.symm
  have hfront : (front.map renderer.group).map Group.fragment
      = front.map (fun t => renderer.fragment t.code) := by
    rw [List.map_map]
    rfl
  rw [returnedParts, hzip, groups_kept_append, LineRenderer.groups, groups_kept,
    List.map_append, hfront, List.append_assoc]
  congr 1
  cases behind with
  | nil => simp [LineRenderer.prepend, shiftedFragments]
  | cons next behind =>
    simp [LineRenderer.prepend, shiftedFragments, LineRenderer.group, Group.fragment,
      LineRenderer.fragment, Text.unlines]

/-! ### What is detected -/

section

variable (renderer : LineRenderer profile) {sections : List Section}
  {lost : List (Option Text)} {markup : Text}

/-- The groups of an answer are the sections that kept their sentinel. -/
theorem length_groups_zip (hlength : lost.length = sections.length) :
    (renderer.groups (sections.zip lost)).1.length + lost.countP Option.isSome
      = sections.length := by
  have hcount := length_groups renderer (sections.zip lost)
  rwa [show (sections.zip lost).map (·.2) = lost from List.map_snd_zip (Nat.le_of_eq hlength),
    List.length_zip, hlength, Nat.min_self] at hcount

/-- One lost sentinel leaves as many fragments as there are sections. -/
theorem fragments_of_one_lost (hlength : lost.length = sections.length)
    (hparts : parts profile (unwrap markup) = returnedParts renderer (sections.zip lost))
    (h : lost.countP Option.isSome = 1) :
    ∃ front s text behind, sections = front ++ s :: behind ∧
      lost = List.replicate front.length none
        ++ some text :: List.replicate behind.length none ∧
      fragments profile markup sections.length
        = .ok (front.map (fun t => renderer.fragment t.code)
            ++ shiftedFragments renderer s text behind) := by
  have hcount := length_groups_zip renderer hlength
  obtain ⟨front, s, text, behind, hsections, hfates⟩ := exists_split_of_countP_eq_one hlength h
  -- One group too few, and the rest behind the last one makes up for it.
  have hopen : ((renderer.groups (sections.zip lost)).1.map Group.fragment).length + 1
      = sections.length := by
    rw [List.length_map]
    omega
  have hfound := fragments_of_open hparts hopen
  refine ⟨front, s, text, behind, hsections, hfates, hfound.trans ?_⟩
  rw [← returnedParts_of_one_lost, ← hsections, ← hfates]
  rfl

/-- More lost sentinels leave too few fragments. -/
theorem fragments_of_more_lost (hlength : lost.length = sections.length)
    (hparts : parts profile (unwrap markup) = returnedParts renderer (sections.zip lost))
    (h : 1 < lost.countP Option.isSome) :
    fragments profile markup sections.length
      = .error (.mismatch sections.length
          (sections.length - lost.countP Option.isSome + 1)) := by
  have hcount := length_groups_zip renderer hlength
  have hlength_map : ((renderer.groups (sections.zip lost)).1.map Group.fragment).length
      = sections.length - lost.countP Option.isSome := by
    rw [List.length_map]
    omega
  rw [fragments_of_ne hparts (by omega) (by omega), hlength_map]

end

/-- **Lost sentinels.** Take sections whose code has no line that is the
sentinel, and a highlighter that answers their blob line by line except
that `k > 0` sentinels come back as some other line. That is a mismatch if
and only if `k ≠ 1`. A single loss is taken for a success, in which the
section of the lost sentinel shares a fragment with the next one, and the
sections behind them get each other's. -/
theorem lostSentinels_detected_iff (outside : Outside) (highlighter : Highlighter)
    (renderer : LineRenderer profile) (sections : List Section) (lost : List (Option Text))
    (hsymbol : '\n' ∉ profile.firstSymbol)
    (hcode : ∀ s ∈ sections, profile.sentinel ∉ Text.lines s.code)
    (hlength : lost.length = sections.length)
    (hplain : ∀ text, some text ∈ lost → PlainLine profile text)
    (hlost : 0 < lost.countP Option.isSome)
    (hanswers : Answers outside highlighter profile (blob profile sections)
      (Text.joinWith ['\n']
        (renderer.renderLosing lost (Text.lines (blob profile sections))))) :
    ((highlightSections outside highlighter profile sections).result
        = .error (.mismatch sections.length
            (sections.length - lost.countP Option.isSome + 1))
      ↔ lost.countP Option.isSome ≠ 1) ∧
    (lost.countP Option.isSome = 1 → ∃ front s text behind,
      sections = front ++ s :: behind ∧
      lost = List.replicate front.length none
        ++ some text :: List.replicate behind.length none ∧
      (highlightSections outside highlighter profile sections).result
        = .ok (withFragments sections
            (front.map (fun t => renderer.fragment t.code)
              ++ shiftedFragments renderer s text behind))) := by
  obtain ⟨markup, hrun, hwraps⟩ := hanswers
  have hparts : parts profile (unwrap markup) = returnedParts renderer (sections.zip lost) := by
    rw [unwrap_of_wraps hwraps, parts_renderLosing renderer hsymbol hcode hlength hplain]
  rw [result_highlightSections hrun]
  by_cases h : lost.countP Option.isSome = 1
  · obtain ⟨front, s, text, behind, hsections, hfates, hfound⟩ :=
      fragments_of_one_lost renderer hlength hparts h
    rw [attach_of_fragments hfound]
    exact ⟨⟨fun herror => (nomatch herror), fun hne => absurd h hne⟩,
      fun _ => ⟨front, s, text, behind, hsections, hfates, rfl⟩⟩
  · have hmismatch := fragments_of_more_lost renderer hlength hparts (by omega)
    rw [attach, hmismatch]
    exact ⟨⟨fun _ => h, fun _ => rfl⟩, fun hone => absurd hone h⟩

/-! ### Two losses and one -/

/-- A language with `#` comments. -/
def hashLanguage : Profile :=
  ⟨"python", ["#"], by decide, by decide, by decide⟩

/-- Three sections with a line of code each. -/
def threeSections : List Section :=
  [⟨0, [], "x = 1\n"⟩, ⟨1, [], "y = 2\n"⟩, ⟨2, [], "z = 3\n"⟩]

/-- A highlighter that escapes the lines of a language but loses
sentinels. -/
def losingHighlighter (profile : Profile) (lost : List (Option Text)) : Highlighter :=
  wrapping fun code => Text.joinWith ['\n']
    ((LineRenderer.escaping profile).renderLosing lost (Text.lines code))

/-- A sentinel that comes back without its span is a plain line. -/
theorem plainLine_bareSentinel : PlainLine hashLanguage hashLanguage.sentinel :=
  ⟨by decide, by decide⟩

theorem lostSentinels_detected_of_two :
    let lost : List (Option Text) := [some hashLanguage.sentinel, none, some hashLanguage.sentinel]
    '\n' ∉ hashLanguage.firstSymbol ∧
    (∀ s ∈ threeSections, hashLanguage.sentinel ∉ Text.lines s.code) ∧
    lost.length = threeSections.length ∧
    (∀ text, some text ∈ lost → PlainLine hashLanguage text) ∧
    0 < lost.countP Option.isSome ∧
    Answers .none (losingHighlighter hashLanguage lost) hashLanguage
      (blob hashLanguage threeSections)
      (Text.joinWith ['\n'] ((LineRenderer.escaping hashLanguage).renderLosing lost
        (Text.lines (blob hashLanguage threeSections)))) ∧
    (highlightSections .none (losingHighlighter hashLanguage lost) hashLanguage
        threeSections).result = .error (.mismatch 3 2) := by
  intro lost
  have hsymbol : '\n' ∉ hashLanguage.firstSymbol := by decide
  have hcode : ∀ s ∈ threeSections, hashLanguage.sentinel ∉ Text.lines s.code := by decide
  have hplain : ∀ text, some text ∈ lost → PlainLine hashLanguage text := by
    intro text htext
    have heq : text = hashLanguage.sentinel := by simpa [lost] using htext
    exact heq ▸ plainLine_bareSentinel
  have hanswers := answers_wrapping hashLanguage (fun code => Text.joinWith ['\n']
    ((LineRenderer.escaping hashLanguage).renderLosing lost (Text.lines code)))
    (blob hashLanguage threeSections)
  have hdetected := lostSentinels_detected_iff .none (losingHighlighter hashLanguage lost) _ _ lost
    hsymbol hcode rfl hplain (by decide) hanswers
  exact ⟨hsymbol, hcode, rfl, hplain, by decide, hanswers, hdetected.1.mpr (by decide)⟩

/-- The first of two sentinels is lost, and that is taken for a success:
the second section's code stands beside the first, and nothing beside the
second. -/
theorem oneLostSentinel_undetected :
    let sections : List Section := [⟨0, [], "x = 1\n"⟩, ⟨1, [], "y = 2\n"⟩]
    let lost : List (Option Text) := [some hashLanguage.sentinel, none]
    PlainLine hashLanguage hashLanguage.sentinel ∧
    (∀ s ∈ sections, hashLanguage.sentinel ∉ Text.lines s.code) ∧
    Answers .none (losingHighlighter hashLanguage lost) hashLanguage
      (blob hashLanguage sections)
      (Text.joinWith ['\n'] ((LineRenderer.escaping hashLanguage).renderLosing lost
        (Text.lines (blob hashLanguage sections)))) ∧
    (highlightSections .none (losingHighlighter hashLanguage lost) hashLanguage sections).result
      = .ok [⟨⟨0, [], "x = 1\n"⟩, marked "x = 1\n\n#DIVIDER\ny = 2"⟩,
          ⟨⟨1, [], "y = 2\n"⟩, marked []⟩] :=
  ⟨plainLine_bareSentinel, by decide, answers_wrapping hashLanguage _ _, by decide +kernel⟩

end Marginalia.Highlight
