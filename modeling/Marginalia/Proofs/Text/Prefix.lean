import Marginalia.Text.Basic

/-!
# `Marginalia.Proofs.Text.Prefix`: beginnings of texts

A text that begins `front ++ back` either lies within `front` or uses it
up and goes on into `back` (`prefix_append_or`). A text that begins
otherwise has nothing behind that beginning (`after?_eq_none_iff`), and
`dropLead` takes nothing off it (`dropLead_eq_self`).
-/

set_option autoImplicit false

namespace Marginalia.Text

/-- A beginning of two texts in a row lies within the first, or is the
first with a beginning of the second. -/
theorem prefix_append_or {lead front back : Text} (h : lead <+: front ++ back) :
    lead <+: front ∨ ∃ spill, lead = front ++ spill ∧ spill <+: back := by
  rcases List.prefix_or_prefix_of_prefix h (List.prefix_append front back) with
    hin | ⟨spill, hspill⟩
  · exact Or.inl hin
  · rw [← hspill] at h
    exact Or.inr ⟨spill, hspill.symm, (List.prefix_append_right_inj front).mp h⟩

/-- Nothing is behind a beginning that a text does not have. -/
theorem after?_eq_none_iff {lead text : Text} : after? lead text = none ↔ ¬ lead <+: text := by
  rw [Option.eq_none_iff_forall_not_mem]
  constructor
  · rintro hnone ⟨rest, hrest⟩
    exact hnone rest (after?_eq_some_iff.mpr hrest.symm)
  · intro hnot rest hrest
    exact hnot ⟨rest, (after?_eq_some_iff.mp hrest).symm⟩

/-- A text that begins otherwise is kept whole. -/
theorem dropLead_eq_self {lead text : Text} (h : ¬ lead <+: text) :
    dropLead lead text = text := by
  rw [dropLead, after?_eq_none_iff.mpr h, Option.getD_none]

end Marginalia.Text
