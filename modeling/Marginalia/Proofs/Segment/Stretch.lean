import Marginalia.Segment.Basic
import Mathlib.Data.List.Basic

/-!
# `Marginalia.Proofs.Segment.Stretch`: documentation, then code, over and over

A list whose items are documentation or code falls into stretches: some
documentation and the code after it. `IsPartition` says when a list of
stretches is such a division, with none of them cut short:

* `isPartition_stretches`: every list has one, which `stretches` finds in
  one pass from the back.
* `IsPartition.eq_stretches`: it has no other.
* `length_stretches`: a new stretch begins exactly where documentation
  follows code.

Nothing here knows what the items are. The lines of a file and its
numbered lines are both divided this way (`stretches_map`).
-/

set_option autoImplicit false

namespace Marginalia.Segment

variable {α β : Type}

/-- Documentation and the code after it. -/
structure Stretch (α : Type) where
  docs : List α
  code : List α

namespace Stretch

/-- The items of a stretch, in order. -/
def items (s : Stretch α) : List α :=
  s.docs ++ s.code

/-- A stretch of other items. -/
def map (f : α → β) (s : Stretch α) : Stretch β :=
  ⟨s.docs.map f, s.code.map f⟩

end Stretch

/-- The division of `items` into stretches:

- `nonempty`: there is at least one stretch;
- `covers`: the stretches in order are the items, none lost and none
  doubled;
- `docs`, `code`: each has documentation first and code after it;
- `code_ne_nil`, `docs_ne_nil`: none is cut short. Only the last may lack
  code, and only the first may lack documentation. -/
structure IsPartition (doc : α → Bool) (items : List α) (parts : List (Stretch α)) : Prop where
  nonempty : parts ≠ []
  covers : parts.flatMap Stretch.items = items
  docs : ∀ s ∈ parts, ∀ x ∈ s.docs, doc x = true
  code : ∀ s ∈ parts, ∀ x ∈ s.code, doc x = false
  code_ne_nil : ∀ s ∈ parts.dropLast, s.code ≠ []
  docs_ne_nil : ∀ s ∈ parts.tail, s.docs ≠ []

/-- The number of places where code is directly followed by
documentation. -/
def turns (doc : α → Bool) (items : List α) : Nat :=
  (items.zip items.tail).countP fun (x, y) => !doc x && doc y

/-- Puts an item in front of the stretches that follow it. -/
def consStretch (doc : α → Bool) (x : α) : List (Stretch α) → List (Stretch α)
  | [] => if doc x then [⟨[x], []⟩] else [⟨[], [x]⟩]
  | s :: rest =>
    if doc x then ⟨x :: s.docs, s.code⟩ :: rest
    else if s.docs = [] then ⟨[], x :: s.code⟩ :: rest
    else ⟨[], [x]⟩ :: s :: rest

/-- The stretches of a list of items. -/
def stretches (doc : α → Bool) (items : List α) : List (Stretch α) :=
  items.foldr (consStretch doc) [⟨[], []⟩]

variable {doc : α → Bool} {x : α} {items : List α} {s : Stretch α} {parts : List (Stretch α)}

theorem stretches_cons (doc : α → Bool) (x : α) (items : List α) :
    stretches doc (x :: items) = consStretch doc x (stretches doc items) :=
  rfl

/-- Documentation joins the stretch it stands in front of. -/
theorem consStretch_of_doc (h : doc x = true) :
    consStretch doc x (s :: parts) = ⟨x :: s.docs, s.code⟩ :: parts := by
  rw [consStretch, if_pos h]

/-- Code joins a stretch without documentation. -/
theorem consStretch_of_code (h : doc x = false) (hs : s.docs = []) :
    consStretch doc x (s :: parts) = ⟨[], x :: s.code⟩ :: parts := by
  rw [consStretch, if_neg (by simp [h]), if_pos hs]

/-- Code in front of documentation is a stretch of its own. -/
theorem consStretch_of_turn (h : doc x = false) (hs : s.docs ≠ []) :
    consStretch doc x (s :: parts) = ⟨[], [x]⟩ :: s :: parts := by
  rw [consStretch, if_neg (by simp [h]), if_neg hs]

/-! ### The stretches are a division -/

/-- The first stretch can be replaced by one with more in front of it. -/
theorem IsPartition.replace_head {s' : Stretch α} (h : IsPartition doc items (s :: parts))
    (hitems : s'.items = x :: s.items) (hdocs : ∀ y ∈ s'.docs, doc y = true)
    (hcode : ∀ y ∈ s'.code, doc y = false) (hkeep : s.code ≠ [] → s'.code ≠ []) :
    IsPartition doc (x :: items) (s' :: parts) := by
  refine ⟨List.cons_ne_nil _ _, ?covers, ?docs, ?code, ?code_ne_nil, h.docs_ne_nil⟩
  case covers =>
    rw [← h.covers, List.flatMap_cons, List.flatMap_cons, hitems, List.cons_append]
  case docs =>
    intro t ht
    rcases List.mem_cons.mp ht with rfl | ht
    · exact hdocs
    · exact h.docs t (List.mem_cons_of_mem s ht)
  case code =>
    intro t ht
    rcases List.mem_cons.mp ht with rfl | ht
    · exact hcode
    · exact h.code t (List.mem_cons_of_mem s ht)
  case code_ne_nil =>
    -- The first must have code only where others follow, and then it had some before.
    have hold := h.code_ne_nil
    cases parts with
    | nil => intro t ht; cases ht
    | cons next rest =>
      intro t ht
      rcases List.mem_cons.mp ht with rfl | ht
      · exact hkeep (hold s List.mem_cons_self)
      · exact hold t (List.mem_cons_of_mem s ht)

/-- A line of code in front of documentation begins a division with one
more stretch. -/
theorem IsPartition.cons_turn (h : IsPartition doc items (s :: parts)) (hx : doc x = false)
    (hs : s.docs ≠ []) : IsPartition doc (x :: items) (⟨[], [x]⟩ :: s :: parts) := by
  refine ⟨List.cons_ne_nil _ _, ?covers, ?docs, ?code, ?code_ne_nil, ?docs_ne_nil⟩
  case covers =>
    rw [← h.covers]
    rfl
  case docs =>
    intro t ht
    rcases List.mem_cons.mp ht with rfl | ht
    · intro y hy; cases hy
    · exact h.docs t ht
  case code =>
    intro t ht
    rcases List.mem_cons.mp ht with rfl | ht
    · intro y hy
      rw [List.mem_singleton.mp hy, hx]
    · exact h.code t ht
  case code_ne_nil =>
    intro t ht
    rcases List.mem_cons.mp ht with rfl | ht
    · exact List.cons_ne_nil _ _
    · exact h.code_ne_nil t ht
  case docs_ne_nil =>
    intro t ht
    rcases List.mem_cons.mp ht with rfl | ht
    · exact hs
    · exact h.docs_ne_nil t ht

/-- One item in front of a division: the three cases are those of
`consStretch`. -/
theorem IsPartition.cons (h : IsPartition doc items parts) (x : α) :
    IsPartition doc (x :: items) (consStretch doc x parts) := by
  obtain ⟨s, rest, rfl⟩ := List.exists_cons_of_ne_nil h.nonempty
  have hdocs := h.docs s List.mem_cons_self
  have hcode := h.code s List.mem_cons_self
  cases hx : doc x with
  | true =>
    rw [consStretch_of_doc hx]
    refine h.replace_head rfl ?_ hcode id
    intro y hy
    rcases List.mem_cons.mp hy with rfl | hy
    · exact hx
    · exact hdocs y hy
  | false =>
    by_cases hs : s.docs = []
    · rw [consStretch_of_code hx hs]
      refine h.replace_head ?_ (by simp) ?_ (fun _ => List.cons_ne_nil _ _)
      · rw [Stretch.items, Stretch.items, hs]
        rfl
      · intro y hy
        rcases List.mem_cons.mp hy with rfl | hy
        · exact hx
        · exact hcode y hy
    · rw [consStretch_of_turn hx hs]
      exact h.cons_turn hx hs

/-- The stretches of a list are a division of it. -/
theorem isPartition_stretches (doc : α → Bool) (items : List α) :
    IsPartition doc items (stretches doc items) := by
  induction items with
  | nil =>
    show IsPartition doc [] [⟨[], []⟩]
    exact ⟨List.cons_ne_nil _ _, rfl, by simp, by simp, by simp, by simp⟩
  | cons x items ih => exact ih.cons x

/-- The documentation of a stretch is of the list. -/
theorem IsPartition.mem_of_mem_docs (h : IsPartition doc items parts) (hs : s ∈ parts)
    (hx : x ∈ s.docs) : x ∈ items := by
  rw [← h.covers]
  exact List.mem_flatMap.mpr ⟨s, hs, List.mem_append_left _ hx⟩

/-- The code of the stretches is the code of the list, in order. -/
theorem IsPartition.flatMap_code (h : IsPartition doc items parts) :
    parts.flatMap Stretch.code = items.filter (!doc ·) := by
  have hcode : ∀ s ∈ parts, s.items.filter (!doc ·) = s.code := by
    intro s hs
    rw [Stretch.items, List.filter_append,
      List.filter_eq_nil_iff.mpr (by simpa using h.docs s hs),
      List.filter_eq_self.mpr (by simpa using h.code s hs), List.nil_append]
  rw [← h.covers, List.filter_flatMap]
  exact (List.flatMap_congr hcode).symm

/-! ### There is no other division -/

/-- Documentation in front of stretches joins the first of them. -/
theorem foldr_consStretch_of_docs {docs : List α} (h : ∀ x ∈ docs, doc x = true) :
    docs.foldr (consStretch doc) (s :: parts) = ⟨docs ++ s.docs, s.code⟩ :: parts := by
  induction docs with
  | nil => rfl
  | cons x docs ih =>
    rw [List.foldr_cons, ih (fun y hy => h y (List.mem_cons_of_mem x hy)),
      consStretch_of_doc (h x List.mem_cons_self)]
    rfl

/-- Code in front of a stretch without documentation joins it. -/
theorem foldr_consStretch_of_code {code : List α} (h : ∀ x ∈ code, doc x = false)
    (hs : s.docs = []) :
    code.foldr (consStretch doc) (s :: parts) = ⟨[], code ++ s.code⟩ :: parts := by
  induction code with
  | nil =>
    obtain ⟨docs, code⟩ := s
    cases hs
    rfl
  | cons x code ih =>
    rw [List.foldr_cons, ih (fun y hy => h y (List.mem_cons_of_mem x hy)),
      consStretch_of_code (h x List.mem_cons_self) rfl]
    rfl

/-- Code in front of documentation is one stretch. Its last item opens
the stretch and the others join it. -/
theorem foldr_consStretch_of_turn {code : List α} (h : ∀ x ∈ code, doc x = false)
    (hcode : code ≠ []) (hs : s.docs ≠ []) :
    code.foldr (consStretch doc) (s :: parts) = ⟨[], code⟩ :: s :: parts := by
  obtain ⟨front, last, rfl⟩ : ∃ front last, code = front ++ [last] :=
    ⟨_, _, (List.dropLast_append_getLast hcode).symm⟩
  rw [List.foldr_append, List.foldr_cons, List.foldr_nil,
    consStretch_of_turn (h last (by simp)) hs,
    foldr_consStretch_of_code (fun y hy => h y (List.mem_append_left _ hy)) rfl]

/-- The stretches behind the first are a division of what they cover. -/
theorem IsPartition.tail {next : Stretch α} (h : IsPartition doc items (s :: next :: parts)) :
    IsPartition doc ((next :: parts).flatMap Stretch.items) (next :: parts) where
  nonempty := List.cons_ne_nil _ _
  covers := rfl
  docs t ht := h.docs t (List.mem_cons_of_mem s ht)
  code t ht := h.code t (List.mem_cons_of_mem s ht)
  code_ne_nil t ht := h.code_ne_nil t (List.mem_cons_of_mem s ht)
  docs_ne_nil t ht := h.docs_ne_nil t (List.mem_of_mem_tail ht)

/-- A list has only one division into stretches. -/
theorem IsPartition.eq_stretches (h : IsPartition doc items parts) :
    parts = stretches doc items := by
  induction parts generalizing items with
  | nil => exact absurd rfl h.nonempty
  | cons s rest ih =>
    have hdocs := h.docs s List.mem_cons_self
    have hcode := h.code s List.mem_cons_self
    rw [← h.covers, List.flatMap_cons, stretches, List.foldr_append, Stretch.items,
      List.foldr_append]
    cases rest with
    | nil =>
      show [s] = s.docs.foldr (consStretch doc) (s.code.foldr (consStretch doc) [⟨[], []⟩])
      rw [foldr_consStretch_of_code hcode rfl, foldr_consStretch_of_docs hdocs]
      simp
    | cons next rest =>
      -- From the back: the later stretches, then the code in front of them, then the documentation.
      have hrest : ((next :: rest).flatMap Stretch.items).foldr (consStretch doc) [⟨[], []⟩]
          = next :: rest := (ih h.tail).symm
      rw [hrest, foldr_consStretch_of_turn hcode (h.code_ne_nil s List.mem_cons_self)
          (h.docs_ne_nil next List.mem_cons_self),
        foldr_consStretch_of_docs hdocs]
      simp

/-! ### How many there are -/

/-- The first stretch has documentation exactly when the list begins
with it. -/
theorem exists_stretches_cons (doc : α → Bool) (x : α) (items : List α) :
    ∃ s rest, stretches doc (x :: items) = s :: rest ∧ (s.docs = [] ↔ doc x = false) := by
  obtain ⟨s, rest, hrest⟩ :=
    List.exists_cons_of_ne_nil (isPartition_stretches doc items).nonempty
  rw [stretches_cons, hrest]
  cases hx : doc x with
  | true => exact ⟨_, _, consStretch_of_doc hx, by simp⟩
  | false =>
    by_cases hs : s.docs = []
    · exact ⟨_, _, consStretch_of_code hx hs, by simp⟩
    · exact ⟨_, _, consStretch_of_turn hx hs, by simp⟩

/-- There is one stretch more than there are places where code is
directly followed by documentation. -/
theorem length_stretches (doc : α → Bool) (items : List α) :
    (stretches doc items).length = 1 + turns doc items := by
  induction items with
  | nil => rfl
  | cons x items ih =>
    cases items with
    | nil =>
      cases hx : doc x with
      | true => rw [stretches_cons, show stretches doc [] = [⟨[], []⟩] from rfl,
          consStretch_of_doc hx]; rfl
      | false => rw [stretches_cons, show stretches doc [] = [⟨[], []⟩] from rfl,
          consStretch_of_code hx rfl]; rfl
    | cons y items =>
      -- Whether `x` opens a stretch depends on the item behind it alone.
      obtain ⟨s, rest, hstretches, hs⟩ := exists_stretches_cons doc y items
      have hturns : turns doc (x :: y :: items)
          = turns doc (y :: items) + if (!doc x && doc y) = true then 1 else 0 := by
        simp [turns, List.countP_cons]
      rw [stretches_cons, hturns, ← Nat.add_assoc, ← ih, hstretches]
      cases hx : doc x with
      | true =>
        rw [consStretch_of_doc hx]
        rfl
      | false =>
        cases hy : doc y with
        | true =>
          rw [consStretch_of_turn hx (by simp [hs, hy])]
          rfl
        | false =>
          rw [consStretch_of_code hx (hs.mpr hy)]
          rfl

/-! ### Other items -/

/-- Stretches of items are found by looking at what the items stand
for. -/
theorem consStretch_map (doc : β → Bool) (f : α → β) (x : α) (parts : List (Stretch α)) :
    (consStretch (doc ∘ f) x parts).map (Stretch.map f)
      = consStretch doc (f x) (parts.map (Stretch.map f)) := by
  cases parts with
  | nil => cases hx : doc (f x) <;> simp [consStretch, Stretch.map, hx]
  | cons s rest =>
    cases hx : doc (f x) with
    | true => simp [consStretch, Stretch.map, hx]
    | false =>
      by_cases hs : s.docs = [] <;> simp [consStretch, Stretch.map, hx, hs]

/-- Dividing and replacing the items can be done in either order. -/
theorem stretches_map (doc : β → Bool) (f : α → β) (items : List α) :
    stretches doc (items.map f) = (stretches (doc ∘ f) items).map (Stretch.map f) := by
  induction items with
  | nil => rfl
  | cons x items ih =>
    rw [List.map_cons, stretches_cons, stretches_cons, consStretch_map, ih]

end Marginalia.Segment
