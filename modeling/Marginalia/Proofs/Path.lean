import Marginalia.Path
import Marginalia.Proofs.Text.Lines

/-!
# `Marginalia.Proofs.Path`: parts and components of paths

A path is followed part by part, but its directories are found by its
components. This file says how the two views belong together.

* `component?_cases`: what becomes of each kind of part.
* `map_text_components_sublist`: the components are some of the parts, in
  their order.
* `mem_enclosing`: a path around another one has the components in front
  of some of the others, and `splitOn_ofComponents` says that these are
  its parts.
* `not_mem_of_fileName?`: a file name is one part.
* `join_cases`: how a part is put behind a directory.
-/

set_option autoImplicit false

namespace Marginalia.Path

variable {path around : Path} {part : Text}

/-! ### Parts and components -/

/-- A part that names something in a directory. -/
def IsName (part : Text) : Prop :=
  part ≠ [] ∧ part ≠ "." ∧ part ≠ ".."

/-- The component that a part is. -/
theorem component?_cases (part : Text) :
    ((part = [] ∨ part = ".") ∧ component? part = none)
      ∨ (part = ".." ∧ component? part = some .parent)
      ∨ (IsName part ∧ component? part = some (.normal part)) := by
  rw [component?]
  split
  · rename_i hstay
    exact .inl ⟨by simpa using hstay, rfl⟩
  · rename_i hstay
    split
    · rename_i hup
      exact .inr (.inl ⟨hup, rfl⟩)
    · rename_i hup
      rw [Bool.or_eq_true, decide_eq_true_iff, decide_eq_true_iff, not_or] at hstay
      exact .inr (.inr ⟨⟨hstay.1, hstay.2, hup⟩, rfl⟩)

/-- A name is a component as it stands. -/
theorem component?_of_isName (h : IsName part) : component? part = some (.normal part) := by
  rcases component?_cases part with ⟨hnil | hdot, -⟩ | ⟨hup, -⟩ | ⟨-, hnormal⟩
  · exact absurd hnil h.1
  · exact absurd hdot h.2.1
  · exact absurd hup h.2.2
  · exact hnormal

/-- The component of a part is written like the part. -/
theorem text_of_component? {component : Component} (h : component? part = some component) :
    component.text = part := by
  rcases component?_cases part with ⟨-, hnone⟩ | ⟨hup, hparent⟩ | ⟨-, hnormal⟩
  · rw [hnone] at h
    cases h
  · rw [hparent] at h
    cases h
    exact hup.symm
  · rw [hnormal] at h
    cases h
    rfl

/-- The components of some parts are some of these parts. -/
theorem map_text_filterMap_sublist (parts : List Text) :
    ((parts.filterMap component?).map Component.text).Sublist parts := by
  induction parts with
  | nil => exact List.Sublist.refl []
  | cons part parts ih =>
    cases h : component? part with
    | none =>
      rw [List.filterMap_cons_none h]
      exact ih.cons part
    | some component =>
      rw [List.filterMap_cons_some h, List.map_cons, text_of_component? h]
      exact ih.cons_cons part

/-- An absolute path begins with an empty part. -/
theorem splitOn_of_isAbsolute (h : path.isAbsolute = true) :
    ∃ parts, Text.splitOn '/' path.text = [] :: parts := by
  obtain ⟨rest, htext⟩ := Text.begins_iff.mp h
  exact ⟨Text.splitOn '/' rest, by rw [htext]; exact Text.splitOn_cons_self '/' rest⟩

/-- How the components of a path begin. -/
theorem components_cases (path : Path) :
    (path.isAbsolute = true
        ∧ ∃ parts, Text.splitOn '/' path.text = Component.root.text :: parts
        ∧ path.components = .root :: parts.filterMap component?)
      ∨ (path.isAbsolute = false
        ∧ ∃ parts, Text.splitOn '/' path.text = Component.current.text :: parts
        ∧ path.components = .current :: parts.filterMap component?)
      ∨ (path.isAbsolute = false
        ∧ path.components = (Text.splitOn '/' path.text).filterMap component?) := by
  cases habsolute : path.isAbsolute with
  | true =>
    obtain ⟨parts, hparts⟩ := splitOn_of_isAbsolute habsolute
    refine .inl ⟨rfl, parts, hparts, ?_⟩
    rw [components, habsolute, hparts]
    rfl
  | false =>
    by_cases hdot : (Text.splitOn '/' path.text).head? = some "."
    · obtain ⟨parts, hparts⟩ := List.head?_eq_some_iff.mp hdot
      refine .inr (.inl ⟨rfl, parts, hparts, ?_⟩)
      rw [components, habsolute, hparts]
      rfl
    · refine .inr (.inr ⟨rfl, ?_⟩)
      rw [components, habsolute, if_neg Bool.false_ne_true, if_neg hdot]
      rfl

/-- The components of a path are some of its parts. -/
theorem map_text_components_sublist (path : Path) :
    (path.components.map Component.text).Sublist (Text.splitOn '/' path.text) := by
  rcases components_cases path with
    ⟨-, parts, hparts, hcomponents⟩ | ⟨-, parts, hparts, hcomponents⟩ | ⟨-, hcomponents⟩
  · rw [hcomponents, hparts]
    exact (map_text_filterMap_sublist parts).cons_cons _
  · rw [hcomponents, hparts]
    exact (map_text_filterMap_sublist parts).cons_cons _
  · rw [hcomponents]
    exact map_text_filterMap_sublist _

/-- No component has a slash in it. -/
theorem not_mem_text {component : Component} (h : component ∈ path.components) :
    '/' ∉ component.text :=
  Text.not_mem_of_mem_splitOn
    ((map_text_components_sublist path).subset (List.mem_map_of_mem h))

/-- A part that counts has some text. -/
theorem text_ne_nil_of_mem_filterMap {component : Component} {parts : List Text}
    (h : component ∈ parts.filterMap component?) : component.text ≠ [] := by
  obtain ⟨part, -, hpart⟩ := List.mem_filterMap.mp h
  rw [text_of_component? hpart]
  rintro rfl
  cases hpart

/-- Only the root is written with nothing. -/
theorem text_ne_nil {component : Component} (h : component ∈ path.components)
    (hroot : component ≠ .root) : component.text ≠ [] := by
  rcases components_cases path with
    ⟨-, parts, -, hcomponents⟩ | ⟨-, parts, -, hcomponents⟩ | ⟨-, hcomponents⟩
  · rw [hcomponents] at h
    rcases List.mem_cons.mp h with rfl | h
    · exact absurd rfl hroot
    · exact text_ne_nil_of_mem_filterMap h
  · rw [hcomponents] at h
    rcases List.mem_cons.mp h with rfl | h
    · exact List.cons_ne_nil _ _
    · exact text_ne_nil_of_mem_filterMap h
  · rw [hcomponents] at h
    exact text_ne_nil_of_mem_filterMap h

/-- The root comes first in an absolute path, and in no other. -/
theorem isAbsolute_iff : path.isAbsolute = true ↔ path.components.head? = some .root := by
  rcases components_cases path with
    ⟨habsolute, parts, -, hcomponents⟩ | ⟨hrelative, parts, -, hcomponents⟩
      | ⟨hrelative, hcomponents⟩
  · rw [hcomponents]
    exact iff_of_true habsolute rfl
  · rw [hcomponents, hrelative]
    exact iff_of_false Bool.false_ne_true (by simp)
  · rw [hrelative]
    refine iff_of_false Bool.false_ne_true fun hhead => ?_
    have hmem := List.mem_of_mem_head? hhead
    rw [hcomponents] at hmem
    exact text_ne_nil_of_mem_filterMap hmem rfl

/-! ### Directories around a path -/

theorem mem_around {components : List Component} (h : around ∈ Path.around components) :
    ∃ inner outer, components = inner ++ outer ∧ inner ≠ [] ∧ outer ≠ []
      ∧ around = ofComponents outer.reverse := by
  induction components with
  | nil => cases h
  | cons component outer ih =>
    cases outer with
    | nil => cases h
    | cons next outer =>
      rw [Path.around] at h
      · rcases List.mem_cons.mp h with rfl | h
        · exact ⟨[component], next :: outer, rfl, by simp, by simp, rfl⟩
        · obtain ⟨inner, rest, hsplit, -, hrest, haround⟩ := ih h
          exact ⟨component :: inner, rest, by rw [hsplit]; rfl, by simp, hrest, haround⟩
      · simp

/-- A path around another one has some of the components in front. -/
theorem mem_enclosing (h : around ∈ path.enclosing) :
    ∃ front back, path.components = front ++ back ∧ front ≠ [] ∧ back ≠ []
      ∧ around = ofComponents front := by
  obtain ⟨inner, outer, hsplit, hinner, houter, haround⟩ := mem_around h
  refine ⟨outer.reverse, inner.reverse, ?_, by simpa using houter, by simpa using hinner, haround⟩
  rw [← List.reverse_append, ← hsplit, List.reverse_reverse]

section Front

variable {front back : List Component} (h : path.components = front ++ back)
include h

/-- The parts of a path made of components in front are these
components. -/
theorem splitOn_ofComponents (hne : front ≠ []) (hroot : front ≠ [.root]) :
    Text.splitOn '/' (ofComponents front).text = front.map Component.text := by
  have hslash : ∀ part ∈ front.map Component.text, '/' ∉ part := by
    intro part hpart
    obtain ⟨component, hmem, rfl⟩ := List.mem_map.mp hpart
    have hcomponent : component ∈ path.components := by
      rw [h]
      exact List.mem_append_left _ hmem
    exact not_mem_text hcomponent
  rw [ofComponents]
  · exact Text.splitOn_joinWith (by simpa using hne) hslash
  · exact hroot

/-- It is as absolute as the path itself. -/
theorem isAbsolute_ofComponents (hne : front ≠ []) :
    (ofComponents front).isAbsolute = path.isAbsolute := by
  obtain ⟨first, rest, rfl⟩ := List.exists_cons_of_ne_nil hne
  have hhead : path.isAbsolute = true ↔ first = .root := by
    rw [isAbsolute_iff, h]
    exact Option.some_inj
  rw [Bool.eq_iff_iff, hhead]
  by_cases hfirst : first = .root
  · refine iff_of_true ?_ hfirst
    subst hfirst
    cases rest with
    | nil => rfl
    | cons next rest => rfl
  · refine iff_of_false (fun habsolute => ?_) hfirst
    obtain ⟨parts, hparts⟩ := splitOn_of_isAbsolute habsolute
    rw [splitOn_ofComponents h hne (by simp [hfirst]), List.map_cons] at hparts
    have hmem : first ∈ path.components := by
      rw [h]
      exact List.mem_cons_self
    exact text_ne_nil hmem hfirst (List.cons.inj hparts).1

/-- It has some text. -/
theorem text_ofComponents_ne_nil (hne : front ≠ []) : (ofComponents front).text ≠ [] := by
  intro hnil
  by_cases hroot : front = [.root]
  · rw [hroot] at hnil
    cases hnil
  · have hparts := splitOn_ofComponents h hne hroot
    obtain ⟨first, rest, rfl⟩ := List.exists_cons_of_ne_nil hne
    -- An empty text has one part, so there is one component, which is written with nothing.
    rw [hnil, List.map_cons] at hparts
    obtain ⟨hfirst, hrest⟩ := List.cons.inj hparts
    have hmem : first ∈ path.components := by
      rw [h]
      exact List.mem_cons_self
    refine text_ne_nil hmem (fun heq => hroot ?_) hfirst.symm
    rw [heq, List.map_eq_nil_iff.mp hrest.symm]

/-- Its text is a part of the path's. -/
theorem text_ofComponents_sublist : (ofComponents front).text.Sublist path.text := by
  by_cases hroot : front = [.root]
  · subst hroot
    have habsolute : path.isAbsolute = true := isAbsolute_iff.mpr (by rw [h]; rfl)
    obtain ⟨rest, htext⟩ := Text.begins_iff.mp habsolute
    rw [htext]
    exact (List.nil_sublist rest).cons_cons '/'
  · have hparts : (front.map Component.text).Sublist (Text.splitOn '/' path.text) := by
      refine List.Sublist.trans ?_ (map_text_components_sublist path)
      rw [h, List.map_append]
      exact List.sublist_append_left _ _
    rw [ofComponents]
    · rw [← Text.joinWith_splitOn '/' path.text]
      exact Text.joinWith_sublist hparts
    · exact hroot

end Front

/-! ### File names -/

/-- A file name is one part. -/
theorem not_mem_of_fileName? {name : Text} (h : path.fileName? = some name) : '/' ∉ name := by
  have hlast : path.components.getLast? = some (.normal name) := by
    rw [fileName?] at h
    split at h
    · rename_i found hfound
      cases h
      exact hfound
    · cases h
  exact not_mem_text (List.mem_of_getLast? hlast)

/-- Without its extension a name has no new characters. -/
theorem stemOf_subset (name : Text) : stemOf name ⊆ name := by
  rw [stemOf]
  split
  · rename_i front rest hcut
    split
    · exact List.Subset.refl name
    · -- What is in front of the last dot is what is behind it from the back.
      rw [Text.cutLast?] at hcut
      split at hcut
      · cases hcut
      · rename_i behind hbehind
        cases hcut
        intro c hc
        rw [List.mem_reverse] at hc
        refine List.mem_reverse.mp ((List.dropWhile_sublist (· != '.')).subset ?_)
        rw [hbehind]
        exact List.mem_cons_of_mem _ hc
  · exact List.Subset.refl name

/-- How a part without slashes is joined to a directory. -/
theorem join_cases (base : Path) (h : '/' ∉ part) :
    (base.text = [] ∧ base.join ⟨part⟩ = ⟨part⟩)
      ∨ (∃ front, base.text = front ++ ['/'] ∧ base.join ⟨part⟩ = ⟨front ++ '/' :: part⟩)
      ∨ (base.text ≠ [] ∧ base.join ⟨part⟩ = ⟨base.text ++ '/' :: part⟩) := by
  have hrelative : isAbsolute ⟨part⟩ = false := by
    cases habsolute : isAbsolute ⟨part⟩ with
    | false => rfl
    | true =>
      obtain ⟨rest, htext⟩ : ∃ rest, part = '/' :: rest := Text.begins_iff.mp habsolute
      exact absurd (by rw [htext]; exact List.mem_cons_self) h
  rw [join, hrelative, if_neg Bool.false_ne_true]
  by_cases hnil : base.text = []
  · exact .inl ⟨hnil, by simp [hnil]⟩
  · by_cases hslash : base.text.getLast? = some '/'
    · obtain ⟨front, hfront⟩ := List.getLast?_eq_some_iff.mp hslash
      exact .inr (.inl ⟨front, hfront, by simp [hfront]⟩)
    · exact .inr (.inr ⟨hnil, by simp [hnil, hslash]⟩)

end Marginalia.Path
