import Mathlib.Data.List.Induction
import Marginalia.Proofs.Documenter.Publish

/-!
# `Marginalia.Proofs.Documenter.Turns`: publishing several files in a row

Every file of a run has its turn on the disk that the files in front of it
have left (`diskAfter`), in the outside as it is at that turn, and comes to
something there (`outcomeAfter`). `outcomes` lists what all files come to,
one outcome for each file and in the order of the files
(`length_outcomes`, `getElem?_outcomes`, `mem_zip_outcomes_iff`).

A run grows by one turn at its end (`diskAfter_concat`). So what holds in
front of some turns and is ended by no turn holds behind them
(`stable_diskAfter`).
-/

set_option autoImplicit false

namespace Marginalia.Documenter

open Disk (perform)
open DiskView (Place find? at?)
open Highlight (Outside Traced)

variable {σ : Type} [Disk (StateM σ)]

/-! ### Turns -/

section Turns

variable (documenter : Documenter)

/-- The disk after files have been published one after the other. -/
def diskAfter : (outside : Nat → Outside) → (s : σ) → (files : List Path) → σ
  | _, s, [] => s
  | outside, s, file :: files =>
    diskAfter (fun turn => outside (turn + 1)) (perform s (documenter.publish (outside 0) file)).2
      files

/-- What a file comes to behind others. -/
def outcomeAfter (outside : Nat → Outside) (s : σ) (front : List Path) (file : Path) :
    Traced (Except Error Path) :=
  (perform (documenter.diskAfter outside s front)
    (documenter.publish (outside front.length) file)).1

/-- What the files come to, each on the disk that the files in front of it
have left. -/
def outcomes : (outside : Nat → Outside) → (s : σ) → (files : List Path) →
    List (Traced (Except Error Path))
  | _, _, [] => []
  | outside, s, file :: files =>
    let (outcome, later) := perform s (documenter.publish (outside 0) file)
    outcome :: outcomes (fun turn => outside (turn + 1)) later files

/-- The last file finds what the others leave. -/
theorem diskAfter_concat (outside : Nat → Outside) (s : σ) (front : List Path) (file : Path) :
    documenter.diskAfter outside s (front ++ [file])
      = (perform (documenter.diskAfter outside s front)
          (documenter.publish (outside front.length) file)).2 := by
  induction front generalizing outside s with
  | nil => rfl
  | cons first front ih => exact ih _ _

/-- What a file comes to and what it leaves. -/
theorem published_after (outside : Nat → Outside) (s : σ) (front : List Path) (file : Path) :
    Published documenter (outside front.length) file (documenter.diskAfter outside s front)
      (documenter.outcomeAfter outside s front file)
      (documenter.diskAfter outside s (front ++ [file])) := by
  rw [diskAfter_concat]
  exact published documenter (outside front.length) file _

/-! ### One outcome for each file -/

theorem length_outcomes (outside : Nat → Outside) (s : σ) (files : List Path) :
    (documenter.outcomes outside s files).length = files.length := by
  induction files generalizing outside s with
  | nil => rfl
  | cons file files ih =>
    show (documenter.outcomes _ _ files).length + 1 = files.length + 1
    rw [ih]

/-- The outcome of a file stands where the file stands. -/
theorem getElem?_outcomes (outside : Nat → Outside) (s : σ) (front : List Path) (file : Path)
    (behind : List Path) :
    (documenter.outcomes outside s (front ++ file :: behind))[front.length]?
      = some (documenter.outcomeAfter outside s front file) := by
  induction front generalizing outside s with
  | nil => rfl
  | cons first front ih => exact ih _ _

end Turns

variable {documenter : Documenter} {outside : Nat → Outside} {file : Path} {s : σ}
  {files front behind : List Path} {outcome : Traced (Except Error Path)}

/-- The outcomes are those of the turns. -/
theorem mem_zip_outcomes_iff :
    (file, outcome) ∈ files.zip (documenter.outcomes outside s files)
      ↔ ∃ front behind, files = front ++ file :: behind
        ∧ documenter.outcomeAfter outside s front file = outcome := by
  constructor
  · intro h
    induction files generalizing outside s with
    | nil => cases h
    | cons first files ih =>
      rcases List.mem_cons.mp h with heq | h
      · cases heq
        exact ⟨[], files, rfl, rfl⟩
      · obtain ⟨front, behind, rfl, houtcome⟩ := ih h
        exact ⟨first :: front, behind, rfl, houtcome⟩
  · rintro ⟨front, behind, rfl, rfl⟩
    induction front generalizing outside s with
    | nil => exact List.mem_cons_self
    | cons first front ih => exact List.mem_cons_of_mem _ ih

/-! ### What holds on -/

section Lawful

variable [LawfulDisk σ] {p : σ → Prop}

/-- Publishing makes directories and writes, and does nothing else to the
disk. -/
theorem Published.stable {path : Path} {later : σ} {outside : Outside}
    (h : Published documenter outside path s outcome later) (hstable : Disk.Stable p) (hs : p s) :
    p later := by
  have hmade := hstable.makeDirectories documenter.output hs
  cases h with
  | unresolved hresolve => exact hs
  | unread hresolve hread =>
    rw [Disk.eq_of_readText hread]
    exact hs
  | undrawn hresolve hread hpage =>
    rw [Disk.eq_of_readText hread]
    exact hs
  | noDirectory hresolve hread hpage hmake =>
    rw [Disk.eq_of_readText hread] at hmake
    rw [hmake] at hmade
    exact hmade
  | @unwritten _ _ page _ _ _ _ hresolve hread hpage hmake hwrite =>
    rw [Disk.eq_of_readText hread] at hmake
    rw [hmake] at hmade
    have hwritten := hstable.write (Page.location documenter.output path) (Utf8.encode page) hmade
    rw [hwrite] at hwritten
    exact hwritten
  | @written _ _ page _ _ _ hresolve hread hpage hmake hwrite =>
    rw [Disk.eq_of_readText hread] at hmake
    rw [hmake] at hmade
    have hwritten := hstable.write (Page.location documenter.output path) (Utf8.encode page) hmade
    rw [hwrite] at hwritten
    exact hwritten

/-- What holds in front of some turns, and what no turn ends, holds behind
them. -/
theorem stable_diskAfter (hstable : Disk.Stable p) (hs : p (documenter.diskAfter outside s front))
    (back : List Path) : p (documenter.diskAfter outside s (front ++ back)) := by
  induction back using List.reverseRecOn with
  | nil =>
    rw [List.append_nil]
    exact hs
  | append_singleton back file ih =>
    rw [← List.append_assoc]
    exact (documenter.published_after outside s (front ++ back) file).stable hstable ih

/-- Paths go on leading where they led. -/
theorem keeps_diskAfter (documenter : Documenter) (outside : Nat → Outside) (s : σ)
    (front back : List Path) :
    Disk.Keeps (documenter.diskAfter outside s front)
      (documenter.diskAfter outside s (front ++ back)) :=
  stable_diskAfter (Disk.stable_keeps _) (.refl _) back

end Lawful

end Marginalia.Documenter
