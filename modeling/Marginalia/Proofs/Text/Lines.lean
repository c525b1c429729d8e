import Marginalia.Text.Lines

/-!
# `Marginalia.Proofs.Text.Lines`: cutting and joining undo each other

`Text.joinWith_splitOn` says that joining the parts of a text gives the
text back. This file proves the other half, which is what makes lines
usable as a view of a text:

* `splitOn_append_cons`: cutting distributes over a mark. A text with a
  mark in it has the parts before the mark, then the parts behind it.
* `splitOn_of_not_mem`: a text without a mark is one part.
* `not_mem_of_mem_splitOn`: no part contains the mark.
* `lines_unlines`: lines that are written one after the other are the
  lines of the text.
* `splitOn_joinWith`: parts without a mark are the parts of what they
  are joined to.
* `joinWith_append`: joining two lists of parts puts one mark between
  them.
-/

set_option autoImplicit false

namespace Marginalia.Text

/-- A character that is no mark joins the part it stands in front of. -/
theorem consCut_of_ne {mark c : Char} (h : c ≠ mark) (part : Text) (parts : List Text) :
    consCut mark c (part :: parts) = (c :: part) :: parts := by
  simp [consCut, h]

/-- A mark closes the part in front of it. -/
theorem splitOn_cons_self (mark : Char) (text : Text) :
    splitOn mark (mark :: text) = [] :: splitOn mark text := by
  simp [splitOn_cons, consCut]

/-- Every text has a first part. -/
theorem exists_splitOn_eq_cons (mark : Char) (text : Text) :
    ∃ part parts, splitOn mark text = part :: parts :=
  List.exists_cons_of_ne_nil (splitOn_ne_nil mark text)

/-- Cutting distributes over a mark. The step is `consCut`: a character
in front of both texts goes to the same first part on either side. -/
theorem splitOn_append_cons (mark : Char) (front back : Text) :
    splitOn mark (front ++ mark :: back) = splitOn mark front ++ splitOn mark back := by
  induction front with
  | nil => rw [List.nil_append, splitOn_cons_self]; rfl
  | cons c front ih =>
    obtain ⟨part, parts, hparts⟩ := exists_splitOn_eq_cons mark front
    rw [List.cons_append, splitOn_cons, splitOn_cons, ih, hparts]
    by_cases h : c = mark
    · simp [consCut, h]
    · rw [List.cons_append, consCut_of_ne h, consCut_of_ne h, List.cons_append]

/-- A text without a mark is its own only part. -/
theorem splitOn_of_not_mem {mark : Char} {text : Text} (h : mark ∉ text) :
    splitOn mark text = [text] := by
  induction text with
  | nil => rfl
  | cons c text ih =>
    obtain ⟨hc, htext⟩ := List.ne_and_not_mem_of_not_mem_cons h
    rw [splitOn_cons, ih htext, consCut_of_ne (Ne.symm hc)]

/-- In front of another text it joins the first part. -/
theorem splitOn_append_of_not_mem {mark : Char} {front text part : Text} {parts : List Text}
    (h : mark ∉ front) (htext : splitOn mark text = part :: parts) :
    splitOn mark (front ++ text) = (front ++ part) :: parts := by
  induction front with
  | nil => exact htext
  | cons c front ih =>
    obtain ⟨hc, hfront⟩ := List.ne_and_not_mem_of_not_mem_cons h
    rw [List.cons_append, splitOn_cons, ih hfront, consCut_of_ne (Ne.symm hc)]
    rfl

/-- No part contains the mark. -/
theorem not_mem_of_mem_splitOn {mark : Char} {text part : Text}
    (h : part ∈ splitOn mark text) : mark ∉ part := by
  induction text generalizing part with
  | nil =>
    rw [show splitOn mark [] = [[]] from rfl, List.mem_singleton] at h
    simp [h]
  | cons c text ih =>
    obtain ⟨first, parts, hparts⟩ := exists_splitOn_eq_cons mark text
    rw [splitOn_cons, hparts] at h
    rw [hparts] at ih
    by_cases hc : c = mark
    · rw [consCut, if_pos hc] at h
      rcases List.mem_cons.mp h with rfl | h
      · simp
      · exact ih h
    · rw [consCut_of_ne hc] at h
      rcases List.mem_cons.mp h with rfl | h
      · simp [Ne.symm hc, ih List.mem_cons_self]
      · exact ih (List.mem_cons_of_mem _ h)

/-- Lines contain no line feed. -/
theorem not_mem_of_mem_lines {text line : Text} (h : line ∈ lines text) : '\n' ∉ line :=
  not_mem_of_mem_splitOn h

/-- Lines with a line feed behind each are the lines again, and an empty
one behind the last line feed. -/
theorem lines_unlines {parts : List Text} (h : ∀ line ∈ parts, '\n' ∉ line) :
    lines (unlines parts) = parts ++ [[]] := by
  induction parts with
  | nil => rfl
  | cons line parts ih =>
    have hcons : unlines (line :: parts) = line ++ '\n' :: unlines parts := by
      simp [unlines]
    have hrest := ih (fun l hl => h l (List.mem_cons_of_mem _ hl))
    rw [lines] at hrest
    rw [hcons, lines, splitOn_append_cons, splitOn_of_not_mem (h line List.mem_cons_self), hrest]
    rfl

/-! ### Joining -/

/-- A part in front of others is followed by what stands between parts. -/
theorem joinWith_cons_cons (between part next : Text) (parts : List Text) :
    joinWith between (part :: next :: parts)
      = part ++ between ++ joinWith between (next :: parts) := by
  simp [joinWith, List.append_assoc]

/-- Parts without a mark, joined by it, are cut into the same parts. -/
theorem splitOn_joinWith {mark : Char} {parts : List Text} (hne : parts ≠ [])
    (h : ∀ part ∈ parts, mark ∉ part) : splitOn mark (joinWith [mark] parts) = parts := by
  induction parts with
  | nil => exact absurd rfl hne
  | cons part parts ih =>
    have hpart := h part List.mem_cons_self
    cases parts with
    | nil =>
      have hsingle : joinWith [mark] [part] = part := by simp [joinWith]
      rw [hsingle, splitOn_of_not_mem hpart]
    | cons next parts =>
      have hrest := ih (List.cons_ne_nil next parts) (fun p hp => h p (List.mem_cons_of_mem _ hp))
      rw [joinWith_cons_cons, List.append_assoc, List.singleton_append, splitOn_append_cons,
        splitOn_of_not_mem hpart, hrest]
      rfl

/-- Fewer parts are joined to less. -/
theorem joinWith_sublist {between : Text} {parts all : List Text} (h : parts.Sublist all) :
    (joinWith between parts).Sublist (joinWith between all) := by
  induction h with
  | slnil => exact List.Sublist.refl []
  | @cons parts all part _ ih =>
    -- What is left of the joined text when its first part is gone.
    have hrest : (joinWith between all).Sublist (joinWith between (part :: all)) := by
      cases all with
      | nil => exact List.nil_sublist _
      | cons next all =>
        rw [joinWith_cons_cons]
        exact List.sublist_append_right _ _
    exact ih.trans hrest
  | @cons_cons parts all part hsub ih =>
    cases parts with
    | nil => exact List.Sublist.append_left (List.nil_sublist _) part
    | cons kept parts =>
      cases all with
      | nil => cases hsub
      | cons next all =>
        rw [joinWith_cons_cons, joinWith_cons_cons]
        exact List.Sublist.append_left ih (part ++ between)

/-- Lines in front of others are the lines with their line feeds. -/
theorem joinWith_append (front back : List Text) (h : back ≠ []) :
    joinWith ['\n'] (front ++ back) = unlines front ++ joinWith ['\n'] back := by
  induction front with
  | nil => rfl
  | cons line front ih =>
    obtain ⟨next, rest, hrest⟩ := List.exists_cons_of_ne_nil (l := front ++ back) (by simp [h])
    rw [List.cons_append, hrest, joinWith_cons_cons, ← hrest, ih]
    simp [unlines]

/-- Lines of which there are some are not nothing, not even when all are
empty. -/
theorem unlines_ne_nil {parts : List Text} (h : parts ≠ []) : unlines parts ≠ [] := by
  obtain ⟨line, rest, rfl⟩ := List.exists_cons_of_ne_nil h
  simp [unlines]

/-- The lines of several texts are the texts' lines in order. -/
theorem unlines_flatMap {α : Type} (items : List α) (f : α → List Text) :
    unlines (items.flatMap f) = items.flatMap fun x => unlines (f x) :=
  List.flatMap_assoc

/-- Lines with a line feed behind each are the joined lines with one line
feed at the end. -/
theorem unlines_eq_joinWith (parts : List Text) (h : parts ≠ []) :
    unlines parts = joinWith ['\n'] parts ++ ['\n'] := by
  have hnil : joinWith ['\n'] (parts ++ [[]]) = unlines parts := by
    rw [joinWith_append parts [[]] (by simp)]
    simp [joinWith]
  obtain ⟨line, rest, rfl⟩ := List.exists_cons_of_ne_nil h
  rw [← hnil]
  simp [joinWith]

end Marginalia.Text
