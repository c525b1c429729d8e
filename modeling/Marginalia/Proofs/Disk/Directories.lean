import Marginalia.Proofs.Disk.Lawful

/-!
# `Marginalia.Proofs.Disk.Directories`: making a directory and those around it

`makeDirectories` tries the directory first, and the ones around it only
where it is told that they are missing. On every lawful disk this has two
effects. Whether it succeeds or not, directories at the path and the paths
around it are all that is new afterwards (`gains_makeDirectories`). And if
it succeeds, all of these paths lead to directories
(`isDirectory_makeDirectories`).

What holds on while directories are made holds behind all of them
(`Stable.makeDirectories`).
-/

set_option autoImplicit false

namespace Marginalia.Disk

open DiskView (Place find? at?)

variable {σ : Type}

/-- The directories that a path asks for: itself and those around it. The
empty path asks for none. -/
def way (path : Path) : List Path :=
  if path.text = [] then [] else path :: path.enclosing

/-! ### New directories -/

section Gains

variable [DiskView σ] {s later last : σ} {path : Path} {place : Place σ} {paths : List Path}

/-- All that is new in `later` are directories, and `paths` lead to
them. -/
structure Gains (paths : List Path) (s later : σ) : Prop where
  keeps : Keeps s later
  gained : ∀ place : Place σ, at? later place = at? s place
    ∨ (at? s place = none ∧ at? later place = some .directory
      ∧ ∃ path ∈ paths, find? later path = some place)

theorem Unchanged.gains (h : Unchanged s later) (paths : List Path) : Gains paths s later :=
  ⟨h.keeps, fun place => .inl (h.same place)⟩

theorem Gains.refl (paths : List Path) (s : σ) : Gains paths s s :=
  (Unchanged.refl s).gains paths

theorem Gains.mono {more : List Path} (h : Gains paths s later) (hsub : paths ⊆ more) :
    Gains more s later where
  keeps := h.keeps
  gained place := by
    rcases h.gained place with hsame | ⟨hnone, hdirectory, path, hpath, hfind⟩
    · exact .inl hsame
    · exact .inr ⟨hnone, hdirectory, path, hsub hpath, hfind⟩

/-- A directory stays where it is. -/
theorem Gains.directory (h : Gains paths s later) (hdirectory : at? s place = some .directory) :
    at? later place = some .directory := by
  rcases h.gained place with hsame | ⟨hnone, -, -⟩
  · exact hsame.trans hdirectory
  · cases hnone.symm.trans hdirectory

theorem Gains.trans (h : Gains paths s later) (h' : Gains paths later last) :
    Gains paths s last where
  keeps := h.keeps.trans h'.keeps
  gained place := by
    rcases h.gained place with hsame | ⟨hnone, hdirectory, path, hpath, hfind⟩
    · rw [← hsame]
      exact h'.gained place
    · exact .inr ⟨hnone, h'.directory hdirectory, path, hpath, h'.keeps.find hfind⟩

/-- Files keep what is in them. -/
theorem Gains.file {content : Bytes} (h : Gains paths s later)
    (hfile : at? s place = some (.file content)) : at? later place = some (.file content) := by
  rcases h.gained place with hsame | ⟨hnone, -, -⟩
  · exact hsame.trans hfile
  · cases hnone.symm.trans hfile

/-- A directory that is put where nothing was is new. -/
theorem Puts.gains (h : Puts place path .directory s later) (hnone : at? s place = none)
    (hpath : path ∈ paths) : Gains paths s later where
  keeps := h.keeps
  gained other := by
    by_cases heq : other = place
    · subst heq
      exact .inr ⟨hnone, h.there, path, hpath, h.find⟩
    · exact .inl (h.others other heq)

end Gains

/-! ### Making directories -/

variable [Disk (StateM σ)]

/-- Makes a directory unless there is one already. -/
def ensure (path : Path) : StateM σ (Except OsError Unit) := do
  Disk.orThere path (← Disk.makeDirectory path)

section Lawful

variable [LawfulDisk σ] {s : σ} {path around : Path} {paths outer : List Path}

/-- At most the directory is new. If it succeeds, the directory is
there. -/
theorem ensure_spec (s : σ) (hpath : path ∈ paths) :
    Gains paths s (perform s (ensure path)).2
      ∧ ((perform s (ensure path)).1 = .ok () → IsDirectory (perform s (ensure path)).2 path) := by
  rw [ensure, perform_bind]
  cases hmade : perform s (Disk.makeDirectory path) with
  | mk made later =>
    cases made with
    | ok _ =>
      obtain ⟨place, hnone, hputs⟩ := LawfulDisk.makeDirectory_ok hmade
      exact ⟨hputs.gains hnone hpath, fun _ => ⟨place, hputs.find, hputs.there⟩⟩
    | error reason =>
      have hsame := (LawfulDisk.makeDirectory_error hmade).gains paths
      have hstate := LawfulDisk.state_isDirectory later path
      -- A refusal counts as success only where a directory is.
      rw [Disk.orThere, perform_bind]
      cases hthere : (perform later (Disk.isDirectory path)).1 with
      | true =>
        rw [if_pos rfl, hstate]
        exact ⟨hsame, fun _ => LawfulDisk.isDirectory_of_true hthere⟩
      | false =>
        rw [if_neg Bool.false_ne_true, hstate]
        exact ⟨hsame, by rintro ⟨⟩⟩

/-- How the first directory of a list is made: at once, or behind the
others, or not at all for want of these. -/
theorem perform_makeInside_cases (path : Path) (outer : List Path) (s : σ) :
    let first := perform s (Disk.makeDirectory path)
    let around := perform first.2 (Disk.makeInside outer)
    let made := perform s (Disk.makeInside (path :: outer))
    made = perform s (ensure path)
      ∨ (Unchanged s first.2 ∧ around.1 = .ok () ∧ made = perform around.2 (ensure path))
      ∨ (Unchanged s first.2 ∧ ∃ reason, around.1 = .error reason
          ∧ made = (.error reason, around.2)) := by
  intro first around made
  have hfirst : perform s (Disk.makeInside (path :: outer)) = made := rfl
  have hstart : perform s (Disk.makeDirectory path) = first := rfl
  rw [Disk.makeInside, perform_bind, hstart] at hfirst
  by_cases hlacks : Disk.lacksOuter first.1 = true
  · right
    -- Nothing has been made so far.
    have hsame : Unchanged s first.2 := by
      cases hmade : first with
      | mk found later =>
        rw [hmade] at hlacks hstart
        cases found with
        | ok _ => cases hlacks
        | error reason => exact LawfulDisk.makeDirectory_error hstart
    rw [if_pos hlacks, perform_bind] at hfirst
    have haround : perform first.2 (Disk.makeInside outer) = around := rfl
    rw [haround] at hfirst
    cases hresult : around.1 with
    | error reason =>
      rw [hresult] at hfirst
      exact .inr ⟨hsame, reason, rfl, hfirst.symm⟩
    | ok _ =>
      rw [hresult] at hfirst
      exact .inl ⟨hsame, rfl, hfirst.symm⟩
  · left
    rw [if_neg hlacks] at hfirst
    exact hfirst.symm

/-- Only directories of the list are made. -/
theorem gains_makeInside (paths : List Path) (s : σ) :
    Gains paths s (perform s (Disk.makeInside paths)).2 := by
  induction paths generalizing s with
  | nil => exact Gains.refl [] s
  | cons path outer ih =>
    have hinside := fun between : σ => (ih between).mono (List.subset_cons_self path outer)
    have hensure := fun between : σ =>
      (ensure_spec between (List.mem_cons_self : path ∈ path :: outer)).1
    rcases perform_makeInside_cases path outer s with
      hmade | ⟨hsame, -, hmade⟩ | ⟨hsame, reason, -, hmade⟩
    · rw [hmade]
      exact hensure s
    · rw [hmade]
      exact ((hsame.gains _).trans (hinside _)).trans (hensure _)
    · rw [hmade]
      exact (hsame.gains _).trans (hinside _)

/-- If it succeeds, the first path of the list leads to a directory. -/
theorem isDirectory_makeInside (h : (perform s (Disk.makeInside (path :: outer))).1 = .ok ()) :
    IsDirectory (perform s (Disk.makeInside (path :: outer))).2 path := by
  have hensure := fun between : σ => (ensure_spec between (List.mem_singleton_self path)).2
  rcases perform_makeInside_cases path outer s with
    hmade | ⟨-, -, hmade⟩ | ⟨-, reason, -, hmade⟩
  · rw [hmade] at h ⊢
    exact hensure s h
  · rw [hmade] at h ⊢
    exact hensure _ h
  · rw [hmade] at h
    cases h

/-- At most the directory and the ones around it are new. -/
theorem gains_makeDirectories (path : Path) (s : σ) :
    Gains (way path) s (perform s (Disk.makeDirectories path)).2 := by
  rw [Disk.makeDirectories, way]
  split
  · exact Gains.refl [] s
  · exact gains_makeInside _ s

/-- If it succeeds, the path and all paths around it lead to
directories. -/
theorem isDirectory_makeDirectories (h : (perform s (Disk.makeDirectories path)).1 = .ok ())
    (haround : around ∈ way path) :
    IsDirectory (perform s (Disk.makeDirectories path)).2 around := by
  rw [way] at haround
  split at haround
  · cases haround
  · rename_i hne
    rw [Disk.makeDirectories, if_neg hne] at h ⊢
    have hpath := isDirectory_makeInside h
    rcases List.mem_cons.mp haround with rfl | haround
    · exact hpath
    · obtain ⟨place, hfind, -⟩ := hpath
      exact LawfulDisk.enclosing hfind haround

/-! ### What holds on -/

variable {p : σ → Prop}

theorem Stable.ensure (h : Stable p) (path : Path) (hs : p s) :
    p (perform s (Disk.ensure path)).2 := by
  have hmade := h.makeDirectory path hs
  rw [Disk.ensure, perform_bind]
  cases (perform s (Disk.makeDirectory path)).1 with
  | ok _ => exact hmade
  | error reason =>
    have hstate := LawfulDisk.state_isDirectory (perform s (Disk.makeDirectory path)).2 path
    rw [Disk.orThere, perform_bind, hstate]
    split
    · exact hmade
    · exact hmade

theorem Stable.makeInside (h : Stable p) (paths : List Path) (hs : p s) :
    p (perform s (Disk.makeInside paths)).2 := by
  induction paths generalizing s with
  | nil => exact hs
  | cons path outer ih =>
    have haround := ih (h.makeDirectory path hs)
    rcases perform_makeInside_cases path outer s with hmade | ⟨-, -, hmade⟩ | ⟨-, reason, -, hmade⟩
    · rw [hmade]
      exact h.ensure path hs
    · rw [hmade]
      exact h.ensure path haround
    · rw [hmade]
      exact haround

theorem Stable.makeDirectories (h : Stable p) (path : Path) (hs : p s) :
    p (perform s (Disk.makeDirectories path)).2 := by
  rw [Disk.makeDirectories]
  split
  · exact hs
  · exact h.makeInside _ hs

end Lawful

end Marginalia.Disk
