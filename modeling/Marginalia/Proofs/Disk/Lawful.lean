import Marginalia.Disk.FileTree

/-!
# `Marginalia.Proofs.Disk.Lawful`: what is assumed of a disk

A program for a disk is followed on the states of that disk. `perform` is
what it comes to in a state, together with the state that it leaves. What
a state is stays open: it may hold more than files, such as who may open
which of them and how many bytes are free.

`LawfulDisk` says what is assumed of the answers, in terms of what is at
which place and where paths lead (`DiskView`):

* Reading and asking change nothing.
* A directory is made where nothing was, or nothing happens.
* A write that succeeds puts the content where the path leads. One that
  fails leaves everything alone, or leaves some other content there, as a
  file is emptied before it is filled.
* The paths around a path that leads somewhere lead to directories.

So a state may have links (several paths to one place), and any request may
be refused or fail. Two things are not covered: somebody else who changes
the disk meanwhile, and paths to something that is neither a file nor a
directory, such as a device.

A property that neither directories nor writes end is `Stable`. That paths
go on leading where they led is one of these (`stable_keeps`).
-/

set_option autoImplicit false

namespace Marginalia

namespace Disk

variable {σ α β : Type}

/-- What a program comes to in a state, and the state that it leaves. -/
def perform (s : σ) (program : StateM σ α) : α × σ :=
  program.run s

@[simp] theorem perform_pure (s : σ) (a : α) : perform s (pure a) = (a, s) :=
  rfl

@[simp] theorem perform_bind (s : σ) (first : StateM σ α) (rest : α → StateM σ β) :
    perform s (first >>= rest) = perform (perform s first).2 (rest (perform s first).1) :=
  rfl

end Disk

/-- What is on a disk: places, what is at each of them, and where paths
lead. -/
class DiskView (σ : Type) where
  Place : Type
  find? : σ → Path → Option Place
  at? : σ → Place → Option Node

namespace Disk

open DiskView (Place find? at?)

section View

variable {σ : Type} [DiskView σ] {s later last : σ} {path : Path} {place : Place σ} {node : Node}
  {content : Bytes}

/-- A path leads to a file with this content. -/
def Holds (s : σ) (path : Path) (content : Bytes) : Prop :=
  ∃ place, find? s path = some place ∧ at? s place = some (.file content)

/-- A path leads to a directory. -/
def IsDirectory (s : σ) (path : Path) : Prop :=
  ∃ place, find? s path = some place ∧ at? s place = some .directory

/-- Two paths lead to one place. -/
def SamePlace (s : σ) (path other : Path) : Prop :=
  ∃ place, find? s path = some place ∧ find? s other = some place

/-- Everything is where it was, and nothing else is there. -/
structure Unchanged (s later : σ) : Prop where
  find : ∀ path, find? later path = find? s path
  same : ∀ place : Place σ, at? later place = at? s place

/-- Paths that led somewhere still lead there. -/
structure Keeps (s later : σ) : Prop where
  find : ∀ {path : Path} {place : Place σ}, find? s path = some place →
    find? later path = some place

/-- A path leads to a place at which `node` has been put. No directory has
been replaced, and all else is as before. -/
structure Puts (place : Place σ) (path : Path) (node : Node) (s later : σ) : Prop where
  find : find? later path = some place
  free : at? s place ≠ some .directory
  there : at? later place = some node
  others : ∀ other, other ≠ place → at? later other = at? s other
  keeps : Keeps s later

/-- A file has one content. -/
theorem Holds.unique {content' : Bytes} (h : Holds s path content) (h' : Holds s path content') :
    content = content' := by
  obtain ⟨place, hfind, hat⟩ := h
  obtain ⟨place', hfind', hat'⟩ := h'
  cases hfind.symm.trans hfind'
  cases hat.symm.trans hat'
  rfl

theorem Unchanged.refl (s : σ) : Unchanged s s :=
  ⟨fun _ => rfl, fun _ => rfl⟩

theorem Unchanged.keeps (h : Unchanged s later) : Keeps s later :=
  ⟨fun hfind => (h.find _).trans hfind⟩

theorem Keeps.refl (s : σ) : Keeps s s :=
  ⟨id⟩

theorem Keeps.trans (h : Keeps s later) (h' : Keeps later last) : Keeps s last :=
  ⟨fun hfind => h'.find (h.find hfind)⟩

/-- Directories stay where they are. -/
theorem Puts.directory (h : Puts place path node s later) {other : Place σ}
    (hother : at? s other = some .directory) : at? later other = some .directory := by
  have hne : other ≠ place := fun heq => h.free (heq ▸ hother)
  exact (h.others other hne).trans hother

end View

end Disk

open Disk in
/-- A disk that keeps what it is given, as far as it takes it. -/
class LawfulDisk (σ : Type) [Disk (StateM σ)] extends DiskView σ where
  /-- Reading changes nothing. -/
  state_read : ∀ (s : σ) (path : Path), (perform s (Disk.read path)).2 = s
  /-- Asking for a file changes nothing. -/
  state_isFile : ∀ (s : σ) (path : Path), (perform s (Disk.isFile path)).2 = s
  /-- Asking for a directory changes nothing. -/
  state_isDirectory : ∀ (s : σ) (path : Path), (perform s (Disk.isDirectory path)).2 = s
  /-- What is read is what the file holds. -/
  holds_of_read : ∀ {s : σ} {path : Path} {content : Bytes},
    (perform s (Disk.read path)).1 = .ok content → Holds s path content
  /-- What is called a directory is one. -/
  isDirectory_of_true : ∀ {s : σ} {path : Path},
    (perform s (Disk.isDirectory path)).1 = true → IsDirectory s path
  /-- A directory is made where nothing was. -/
  makeDirectory_ok : ∀ {s later : σ} {path : Path},
    perform s (Disk.makeDirectory path) = (.ok (), later) →
    ∃ place, DiskView.at? s place = none ∧ Puts place path .directory s later
  /-- Nothing is left of a directory that could not be made. -/
  makeDirectory_error : ∀ {s later : σ} {path : Path} {reason : OsError},
    perform s (Disk.makeDirectory path) = (.error reason, later) → Unchanged s later
  /-- What is written is there. -/
  write_ok : ∀ {s later : σ} {path : Path} {content : Bytes},
    perform s (Disk.write path content) = (.ok (), later) →
    ∃ place, Puts place path (.file content) s later
  /-- A write that fails may leave a file with any content. -/
  write_error : ∀ {s later : σ} {path : Path} {content : Bytes} {reason : OsError},
    perform s (Disk.write path content) = (.error reason, later) →
    Unchanged s later ∨ ∃ place kept, Puts place path (.file kept) s later
  /-- The paths around a path lead to directories. -/
  enclosing : ∀ {s : σ} {path around : Path} {place : Place},
    DiskView.find? s path = some place → around ∈ path.enclosing → IsDirectory s around

namespace Disk

open DiskView (Place find? at?)

variable {σ : Type} [Disk (StateM σ)]

/-- The text of a file, and what reading it leaves, come from the
content. -/
theorem perform_readText (s : σ) (path : Path) :
    perform s (Disk.readText path)
      = ((perform s (Disk.read path)).1.bind fun content =>
          (Utf8.decode? content).elim (.error .notText) .ok,
        (perform s (Disk.read path)).2) := by
  rw [Disk.readText, perform_bind]
  cases (perform s (Disk.read path)).1 with
  | error reason => rfl
  | ok content =>
    dsimp only
    cases hdecoded : Utf8.decode? content with
    | none => simp [Except.bind, hdecoded]
    | some text => simp [Except.bind, hdecoded]

/-- Reading a text changes no more than reading does. -/
@[simp] theorem state_readText [LawfulDisk σ] (s : σ) (path : Path) :
    (perform s (Disk.readText path)).2 = s := by
  rw [perform_readText]
  exact LawfulDisk.state_read s path

theorem eq_of_readText [LawfulDisk σ] {s later : σ} {path : Path} {read : Except OsError Text}
    (h : perform s (Disk.readText path) = (read, later)) : later = s := by
  rw [← state_readText s path, h]

/-- A property of states that holds on, whatever is made or written. -/
structure Stable (p : σ → Prop) : Prop where
  makeDirectory : ∀ {s : σ} (path : Path), p s → p (perform s (Disk.makeDirectory path)).2
  write : ∀ {s : σ} (path : Path) (content : Bytes), p s → p (perform s (Disk.write path content)).2

/-- Paths go on leading where they led. -/
theorem stable_keeps [LawfulDisk σ] (s : σ) : Stable (Keeps s) where
  makeDirectory {between} path h := by
    cases hmade : perform between (Disk.makeDirectory path) with
    | mk made later =>
      cases made with
      | ok _ =>
        obtain ⟨place, -, hputs⟩ := LawfulDisk.makeDirectory_ok hmade
        exact h.trans hputs.keeps
      | error reason => exact h.trans (LawfulDisk.makeDirectory_error hmade).keeps
  write {between} path content h := by
    cases hwritten : perform between (Disk.write path content) with
    | mk written later =>
      cases written with
      | ok _ =>
        obtain ⟨place, hputs⟩ := LawfulDisk.write_ok hwritten
        exact h.trans hputs.keeps
      | error reason =>
        rcases LawfulDisk.write_error hwritten with hsame | ⟨place, kept, hputs⟩
        · exact h.trans hsame.keeps
        · exact h.trans hputs.keeps

end Disk

end Marginalia
