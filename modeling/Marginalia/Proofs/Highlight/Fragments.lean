import Marginalia.Highlight.Sections
import Marginalia.Proofs.Text.Blank
import Marginalia.Proofs.Text.Prefix
import Mathlib.Data.List.Infix

/-!
# `Marginalia.Proofs.Highlight.Fragments`: out of the wrapper, and counted

Two things stand between the markup of a highlighter and the fragments of
its sections. The wrapper comes off: `unwrap_of_wraps` says what is left
of an answer that has one. Then the fragments are counted, and the count
has three outcomes, one lemma each:

* `fragments_of_closed`: one fragment for each section and a blank rest
  behind the last divider, which is dropped;
* `fragments_of_open`: the rest behind the last divider makes up the
  number, and stands for the last section;
* `fragments_of_ne`: neither, which is a mismatch.
-/

set_option autoImplicit false

namespace Marginalia.Highlight

open Marginalia.Language (Profile)

/-! ### The wrapper -/

/-- The answer of a highlighter whose markup of the code is `body`: in
the wrapper, maybe behind an empty span, and maybe with blanks at the
end. -/
inductive Wraps (body : Text) : (markup : Text) → Prop
  | marked (trail : Text) (blank : trail.allBlank = true) :
      Wraps body ("<div class=\"highlight\"><pre>" ++ "<span></span>" ++ body ++ "</pre></div>"
        ++ trail)
  | bare (trail : Text) (blank : trail.allBlank = true)
      (unmarked : ¬ "<span></span>".toList <+: body) :
      Wraps body ("<div class=\"highlight\"><pre>" ++ body ++ "</pre></div>" ++ trail)

/-- What closes the code ends in a visible character. -/
theorem trimEnd_codeClose {trail : Text} (h : trail.allBlank = true) (text : Text) :
    Text.trimEnd (text ++ codeClose ++ trail) = text ++ codeClose := by
  have hlast : codeClose = codeClose.dropLast ++ ['>'] := by decide
  rw [Text.trimEnd_append_of_allBlank h, hlast, ← List.append_assoc,
    Text.trimEnd_append_singleton (by decide)]

/-- What closes the code completes no empty span. -/
theorem emptySpan_not_completed {body : Text} (h : ¬ emptySpan <+: body) :
    ¬ emptySpan <+: body ++ codeClose := by
  intro hspan
  -- No end of the empty span is a beginning of what closes the code.
  have hends : ∀ spill ∈ emptySpan.tails, spill <+: codeClose → spill = [] := by decide
  rcases Text.prefix_append_or hspan with hin | ⟨spill, hspill, hclose⟩
  · exact h hin
  · have hnil : spill = [] := hends spill ((List.mem_tails _ _).mpr ⟨body, hspill.symm⟩) hclose
    rw [hnil, List.append_nil] at hspill
    exact h (hspill ▸ List.prefix_rfl)

/-- What is left of an answer without its wrapper is the markup of the
code. -/
theorem unwrap_of_wraps {body markup : Text} (h : Wraps body markup) : unwrap markup = body := by
  cases h with
  | marked trail blank =>
    show unwrap (codeOpen ++ emptySpan ++ body ++ codeClose ++ trail) = body
    rw [unwrap, trimEnd_codeClose blank]
    simp only [List.append_assoc, Text.dropLead_append, Text.dropTail_append]
  | bare trail blank unmarked =>
    show unwrap (codeOpen ++ body ++ codeClose ++ trail) = body
    rw [unwrap, trimEnd_codeClose blank, List.append_assoc, Text.dropLead_append,
      Text.dropLead_eq_self (emptySpan_not_completed unmarked), Text.dropTail_append]

/-! ### The count -/

variable {profile : Profile} {markup : Text} {sections : Nat} {front : List Text} {rest : Text}

/-- A blank rest behind as many fragments as there are sections is
dropped. -/
theorem fragments_of_closed (hparts : parts profile (unwrap markup) = front ++ [rest])
    (hcount : front.length = sections) (hblank : rest.allBlank = true) :
    fragments profile markup sections = .ok front := by
  have hdrop : dropBlankRest sections (front ++ [rest]) = front := by
    simp [dropBlankRest, hcount, hblank]
  simp [fragments, hparts, hdrop, hcount]

/-- Where the number is right, the fragments stay as they are. -/
theorem fragments_of_open (hparts : parts profile (unwrap markup) = front ++ [rest])
    (hcount : front.length + 1 = sections) :
    fragments profile markup sections = .ok (front ++ [rest]) := by
  have hdrop : dropBlankRest sections (front ++ [rest]) = front ++ [rest] := by
    simp [dropBlankRest, ← hcount]
  simp [fragments, hparts, hdrop, hcount]

/-- Any other number is a mismatch. -/
theorem fragments_of_ne (hparts : parts profile (unwrap markup) = front ++ [rest])
    (hclosed : front.length ≠ sections) (hopen : front.length + 1 ≠ sections) :
    fragments profile markup sections = .error (.mismatch sections (front.length + 1)) := by
  have hdrop : dropBlankRest sections (front ++ [rest]) = front ++ [rest] := by
    simp [dropBlankRest, hclosed]
  simp [fragments, hparts, hdrop, hopen]

/-! ### The sections -/

/-- The result for the sections is what is attached from the answer of
the highlighter. -/
theorem result_highlightSections {outside : Outside} {highlighter : Highlighter}
    {sections : List Section} {markup : Text}
    (h : (highlighter.run outside profile.name (blob profile sections)).result = .ok markup) :
    (highlightSections outside highlighter profile sections).result
      = attach profile sections markup := by
  simp only [highlightSections, Traced.after, Traced.map, h]
  rfl

end Marginalia.Highlight
