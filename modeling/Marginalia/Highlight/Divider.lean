import Marginalia.Language.Profile
import Marginalia.Text.Escape

/-!
# `Marginalia.Highlight.Divider`: the sentinel in highlighted code

A highlighter writes the sentinel as an escaped comment in a span of
class `c` or `c1`. A divider is such a span with all line feeds right
before it and at most one right after it. A text is cut at its dividers
from left to right.
-/

set_option autoImplicit false

namespace Marginalia.Highlight

open Marginalia.Language (Profile)

/-- The spans that a sentinel may come back as, each without the `<` that
it begins with. -/
def sentinelSpans (profile : Profile) : List Text :=
  let comment := Text.escape profile.firstSymbol ++ Profile.marker ++ "</span>"
  ["span class=\"c1\">" ++ comment, "span class=\"c\">" ++ comment]

/-- A line feed, if the text begins with one, and the rest. -/
def cutLineFeed : Text → Text × Text
  | '\n' :: text => (['\n'], text)
  | text => ([], text)

/-- A span that the text begins with, together with one line feed if one
follows, and the rest. -/
def divider? (spans : List Text) : (text : Text) → Option (Text × Text)
  | '<' :: text =>
    spans.findSome? fun span =>
      (Text.after? span text).map fun rest =>
        ('<' :: span ++ (cutLineFeed rest).1, (cutLineFeed rest).2)
  | _ => none

theorem cutLineFeed_append (text : Text) : (cutLineFeed text).1 ++ (cutLineFeed text).2 = text := by
  unfold cutLineFeed
  split <;> rfl

theorem append_of_divider? {spans : List Text} {text found rest : Text}
    (h : divider? spans text = some (found, rest)) : text = found ++ rest ∧ found ≠ [] := by
  unfold divider? at h
  split at h
  · obtain ⟨span, _, hspan⟩ := List.exists_of_findSome?_eq_some h
    obtain ⟨after, hafter, hcut⟩ := Option.map_eq_some_iff.1 hspan
    rw [Text.after?_eq_some_iff] at hafter
    obtain ⟨rfl, rfl⟩ := Prod.mk.inj hcut
    simp [hafter, cutLineFeed_append]
  · simp at h

theorem length_lt_of_divider? {spans : List Text} {text found rest : Text}
    (h : divider? spans text = some (found, rest)) : rest.length < text.length := by
  obtain ⟨rfl, hne⟩ := append_of_divider? h
  have := List.length_pos_iff.2 hne
  simp only [List.length_append]
  omega

/-- A fragment and the divider behind it, where `seen` is, in reverse,
what stands before the span: its last line feeds belong to the divider. -/
def closeFragment (seen span : Text) : Text × Text :=
  ((seen.dropWhile (· = '\n')).reverse, (seen.takeWhile (· = '\n')).reverse ++ span)

/-- Cuts `text` at its dividers. `seen` is, in reverse, what stands
before it without a divider; `done` are, in reverse, the fragments cut
off already with their dividers. -/
def cutOnto (spans : List Text) (done : List (Text × Text)) (seen text : Text) :
    List (Text × Text) × Text :=
  match text with
  | [] => (done.reverse, seen.reverse)
  | c :: tail =>
    match h : divider? spans (c :: tail) with
    | none => cutOnto spans done (c :: seen) tail
    | some (found, rest) =>
      have := length_lt_of_divider? h
      cutOnto spans (closeFragment seen found :: done) [] rest
termination_by text.length
decreasing_by
  · simp
  · assumption

/-- The fragments that a divider follows, each with it, and the rest. -/
def cut (profile : Profile) (text : Text) : List (Text × Text) × Text :=
  cutOnto (sentinelSpans profile) [] [] text

/-- The fragments between the dividers, always one more than these. -/
def parts (profile : Profile) (text : Text) : List Text :=
  let (pairs, tail) := cut profile text
  pairs.map (·.1) ++ [tail]

end Marginalia.Highlight
