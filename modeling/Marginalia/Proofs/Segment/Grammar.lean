import Marginalia.Segment.Grammar
import Marginalia.Proofs.Text.Blank
import Marginalia.Proofs.Text.Prefix

/-!
# `Marginalia.Proofs.Segment.Grammar`: what documentation lines look like

`classify?` tries a list of beginnings on a line, and the first that fits
decides. This file says what the line then looks like, and leaves the
list behind. There is one equivalence for each way in which a line is
documentation:

* `classify?_eq_opening_iff`: it begins with `/**`;
* `classify?_eq_continuation_iff`: it begins with a star;
* `classify?_eq_comment_iff`: it begins with neither, and one of the
  comment symbols is the first to fit (`IsComment`).

`closes_iff_trim` adds the line that closes a docblock. It holds a star
and a slash, and nothing else but blanks.
-/

set_option autoImplicit false

namespace Marginalia.Segment

open Marginalia.Language (Profile)

/-- The beginning of a line that opens a docblock. -/
def openingLead : Text := "/**"

/-- The beginning of a line that continues one. -/
def continuationLead : Text := "*"

/-- A comment line, with the symbol that makes it one and the text behind
it. Blanks in front of the symbol do not count:

- `reads`: the line is the symbol and the text;
- `first`: no symbol that is tried before fits;
- `not_opening`, `not_continuation`: the line does not belong to a
  docblock by its beginning. -/
structure IsComment (profile : Profile) (line symbol rest : Text) : Prop where
  reads : Text.trimStart line = symbol ++ rest
  first : ∃ before behind, profile.symbols = before ++ symbol :: behind ∧
    ∀ other ∈ before, ¬ other <+: Text.trimStart line
  not_opening : ¬ openingLead <+: Text.trimStart line
  not_continuation : ¬ continuationLead <+: Text.trimStart line

variable {profile : Profile} {line symbol rest : Text}

/-! ### One beginning after the other -/

/-- The beginnings, in the order in which they are tried. -/
theorem classify?_eq (profile : Profile) (line : Text) :
    classify? profile line
      = ((Text.after? openingLead (Text.trimStart line)).map (DocLine.opening, ·)).or
        (((Text.after? continuationLead (Text.trimStart line)).map (DocLine.continuation, ·)).or
          (profile.symbols.findSome? fun symbol =>
            (Text.after? symbol (Text.trimStart line)).map (DocLine.comment, ·))) := by
  simp only [classify?, leads, List.findSome?_cons, List.findSome?_map, openingLead,
    continuationLead]
  cases Text.after? "/**" (Text.trimStart line) with
  | some text => rfl
  | none => cases Text.after? "*" (Text.trimStart line) <;> rfl

theorem classify?_of_opening (h : Text.trimStart line = openingLead ++ rest) :
    classify? profile line = some (.opening, rest) := by
  rw [classify?_eq, h, Text.after?_append]
  rfl

theorem classify?_of_continuation (h : Text.trimStart line = continuationLead ++ rest) :
    classify? profile line = some (.continuation, rest) := by
  -- A line that begins with a star does not begin with a slash.
  have hopening : Text.after? openingLead (continuationLead ++ rest) = none := rfl
  rw [classify?_eq, h, hopening, Text.after?_append]
  rfl

theorem classify?_of_neither (hopening : ¬ openingLead <+: Text.trimStart line)
    (hcontinuation : ¬ continuationLead <+: Text.trimStart line) :
    classify? profile line
      = profile.symbols.findSome? fun symbol =>
        (Text.after? symbol (Text.trimStart line)).map (DocLine.comment, ·) := by
  rw [classify?_eq, Text.after?_eq_none_iff.mpr hopening,
    Text.after?_eq_none_iff.mpr hcontinuation]
  rfl

/-- The symbols make comment lines only. -/
theorem eq_comment_of_neither {kind : DocLine} (hopening : ¬ openingLead <+: Text.trimStart line)
    (hcontinuation : ¬ continuationLead <+: Text.trimStart line)
    (h : classify? profile line = some (kind, rest)) : kind = .comment := by
  rw [classify?_of_neither hopening hcontinuation] at h
  obtain ⟨symbol, -, hsymbol⟩ := List.exists_of_findSome?_eq_some h
  obtain ⟨text, -, heq⟩ := Option.map_eq_some_iff.mp hsymbol
  cases heq
  rfl

/-! ### The three ways -/

theorem classify?_eq_opening_iff :
    classify? profile line = some (.opening, rest)
      ↔ Text.trimStart line = openingLead ++ rest := by
  refine ⟨fun h => ?_, classify?_of_opening⟩
  by_cases hopening : openingLead <+: Text.trimStart line
  · obtain ⟨text, htext⟩ := hopening
    rw [classify?_of_opening htext.symm] at h
    cases h
    exact htext.symm
  · by_cases hcontinuation : continuationLead <+: Text.trimStart line
    · obtain ⟨text, htext⟩ := hcontinuation
      rw [classify?_of_continuation htext.symm] at h
      cases h
    · cases eq_comment_of_neither hopening hcontinuation h

theorem classify?_eq_continuation_iff :
    classify? profile line = some (.continuation, rest)
      ↔ Text.trimStart line = continuationLead ++ rest := by
  refine ⟨fun h => ?_, classify?_of_continuation⟩
  by_cases hcontinuation : continuationLead <+: Text.trimStart line
  · obtain ⟨text, htext⟩ := hcontinuation
    rw [classify?_of_continuation htext.symm] at h
    cases h
    exact htext.symm
  · by_cases hopening : openingLead <+: Text.trimStart line
    · obtain ⟨text, htext⟩ := hopening
      rw [classify?_of_opening htext.symm] at h
      cases h
    · cases eq_comment_of_neither hopening hcontinuation h

theorem classify?_eq_comment_iff :
    classify? profile line = some (.comment, rest)
      ↔ ∃ symbol, IsComment profile line symbol rest := by
  constructor
  · intro h
    have hopening : ¬ openingLead <+: Text.trimStart line := by
      rintro ⟨text, htext⟩
      rw [classify?_of_opening htext.symm] at h
      cases h
    have hcontinuation : ¬ continuationLead <+: Text.trimStart line := by
      rintro ⟨text, htext⟩
      rw [classify?_of_continuation htext.symm] at h
      cases h
    rw [classify?_of_neither hopening hcontinuation] at h
    obtain ⟨before, symbol, behind, hsymbols, hfits, hbefore⟩ := List.findSome?_eq_some_iff.mp h
    obtain ⟨text, htext, heq⟩ := Option.map_eq_some_iff.mp hfits
    cases heq
    refine ⟨symbol, Text.after?_eq_some_iff.mp htext, ⟨before, behind, hsymbols, ?_⟩, hopening,
      hcontinuation⟩
    intro other hother
    exact Text.after?_eq_none_iff.mp (Option.map_eq_none_iff.mp (hbefore other hother))
  · rintro ⟨symbol, hreads, ⟨before, behind, hsymbols, hbefore⟩, hopening, hcontinuation⟩
    rw [classify?_of_neither hopening hcontinuation, List.findSome?_eq_some_iff]
    refine ⟨before, symbol, behind, hsymbols, ?_, ?_⟩
    · rw [Text.after?_eq_some_iff.mpr hreads]
      rfl
    · intro other hother
      rw [Text.after?_eq_none_iff.mpr (hbefore other hother), Option.map_none]

/-! ### The line that closes a docblock -/

/-- A line closes a docblock when it holds `*/` and nothing else but
blanks. -/
theorem closes_iff_trim :
    (∃ rest, classify? profile line = some (.continuation, rest) ∧
      closes .continuation rest = true)
      ↔ Text.trim line = "*/" := by
  have hstar : isBlank '*' = false := by decide
  constructor
  · rintro ⟨rest, hclass, hcloses⟩
    have hrest : Text.trimEnd rest = "/" := by
      simpa [closes] using hcloses
    rw [Text.trim, classify?_eq_continuation_iff.mp hclass]
    show Text.trimEnd ('*' :: rest) = _
    rw [Text.trimEnd_cons hstar, hrest]
    rfl
  · intro htrim
    -- The line begins with what is left when the blanks behind are gone.
    obtain ⟨behind, hbehind⟩ := Text.trimEnd_prefix (Text.trimStart line)
    rw [← Text.trim, htrim] at hbehind
    have hreads : Text.trimStart line = continuationLead ++ ('/' :: behind) := hbehind.symm
    refine ⟨'/' :: behind, classify?_of_continuation hreads, ?_⟩
    rw [Text.trim, hreads] at htrim
    change Text.trimEnd ('*' :: '/' :: behind) = '*' :: ['/'] at htrim
    rw [Text.trimEnd_cons hstar] at htrim
    have hslash : Text.trimEnd ('/' :: behind) = ['/'] := (List.cons.inj htrim).2
    simp [closes, hslash]

end Marginalia.Segment
