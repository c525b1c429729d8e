import Mathlib.Control.Monad.Basic
import Marginalia.Documenter.Publish
import Marginalia.Proofs.Disk.Components

/-!
# `Marginalia.Proofs.Documenter.Publish`: all of a page or nothing

`published` says once what publishing a file can come to, as one case for
each way out: `Published` has the outcome and the state that the disk is
left in. It holds of any disk at all.

On a lawful disk, four of the six cases leave everything alone or add
directories, and only the last two ask the disk to write. `publish_atomic`
reads off what a caller may rely on. Publishing fails where laying out the
page fails, and with the same error. The disk does not change before the
page is complete, and the highlighter is called once for a file that could
be read and not at all for any other. A page that is reported is in its
place.

If the page cannot be written, the file at its place is the only one that
may have changed. It may have: a file is emptied before it is filled, and
`oldPageLost` is a disk that runs full in between.
-/

set_option autoImplicit false

namespace Marginalia

open Disk (perform)
open DiskView (Place find? at?)
open Highlight (Event Highlighter Outside Traced blob)
open Marginalia.Language (Profile)

/-! ### What is asked of the outside -/

namespace Highlight

/-- Whether something is asked of the outside, and not just noted. -/
def Event.isRequest : Event → Bool
  | .logged _ => false
  | _ => true

/-- What is asked of the outside, in order. -/
def requests (events : List Event) : List Event :=
  events.filter Event.isRequest

theorem requests_append (before behind : List Event) :
    requests (before ++ behind) = requests before ++ requests behind :=
  List.filter_append before behind

/-- Records ask for nothing. -/
@[simp] theorem requests_logged_cons (record : Log.Record) (events : List Event) :
    requests (.logged record :: events) = requests events :=
  rfl

@[simp] theorem requests_append_logged (events : List Event) (record : Log.Record) :
    requests (events ++ [.logged record]) = requests events := by
  rw [requests_append]
  exact List.append_nil _

/-- No highlighter answers without asking. -/
theorem requests_run_ne_nil (outside : Outside) (lexer code : Text) (highlighter : Highlighter) :
    requests (highlighter.run outside lexer code).events ≠ [] := by
  induction highlighter with
  | command tool limit => exact List.cons_ne_nil _ _
  | service url limit => exact List.cons_ne_nil _ _
  | given name label answer => exact List.cons_ne_nil _ _
  | withFallback primary fallback ihPrimary ihFallback =>
    rw [Highlighter.run]
    -- Whatever becomes of the fallback, the first highlighter has been asked.
    have hfirst : ∀ events, requests ((primary.run outside lexer code).events ++ events) ≠ [] := by
      intro events
      rw [requests_append]
      exact List.append_ne_nil_of_left_ne_nil ihPrimary _
    split
    · show requests (_ ++ _ ++ _) ≠ []
      rw [List.append_assoc]
      exact hfirst _
    · exact ihPrimary
    · exact hfirst _

end Highlight

namespace Documenter

variable {documenter : Documenter} {outside : Outside} {path : Path} {profile : Profile}
  {source page : Text}

/-- What is done for a page: two records, and what the highlighter does
for all the code at once. -/
theorem events_page (h : documenter.registry.resolve path = .ok profile) :
    (documenter.page outside path source).events
      = .logged (segmented path profile (profile.segment source))
        :: .logged (Highlight.highlighting documenter.highlighter profile (profile.segment source))
        :: (documenter.highlighter.run outside profile.name
            (blob profile (profile.segment source))).events := by
  rw [page_of_resolve h]
  rfl

/-- For a page the highlighter is called once, and never for nothing. -/
theorem requests_page (outside : Outside) (source : Text)
    (h : documenter.registry.resolve path = .ok profile) :
    Highlight.requests (documenter.page outside path source).events
        = Highlight.requests (documenter.highlighter.run outside profile.name
            (blob profile (profile.segment source))).events
      ∧ Highlight.requests (documenter.page outside path source).events ≠ [] := by
  have hrequests : Highlight.requests (documenter.page outside path source).events
      = Highlight.requests (documenter.highlighter.run outside profile.name
          (blob profile (profile.segment source))).events := by
    rw [events_page h, Highlight.requests_logged_cons, Highlight.requests_logged_cons]
  refine ⟨hrequests, ?_⟩
  rw [hrequests]
  exact Highlight.requests_run_ne_nil outside _ _ _

/-! ### What publishing comes to -/

variable {σ : Type} [Disk (StateM σ)] {s later : σ} {outcome : Traced (Except Error Path)}

/-- The outcomes of publishing a file on a disk, each with the state that
is left. -/
inductive Published (documenter : Documenter) (outside : Outside) (path : Path) (s : σ) :
    Traced (Except Error Path) → σ → Prop
  | unresolved {reason : Language.Error}
      (hresolve : documenter.registry.resolve path = .error reason) :
      Published documenter outside path s ⟨.error (.language reason), []⟩ s
  | unread {profile : Profile} {reason : OsError} {later : σ}
      (hresolve : documenter.registry.resolve path = .ok profile)
      (hread : perform s (Disk.readText path) = (.error reason, later)) :
      Published documenter outside path s ⟨.error (.unreadable path reason), []⟩ later
  | undrawn {profile : Profile} {source : Text} {e : Error} {later : σ}
      (hresolve : documenter.registry.resolve path = .ok profile)
      (hread : perform s (Disk.readText path) = (.ok source, later))
      (hpage : (documenter.page outside path source).result = .error e) :
      Published documenter outside path s
        ⟨.error e, (documenter.page outside path source).events⟩ later
  | noDirectory {profile : Profile} {source page : Text} {reason : OsError} {loaded later : σ}
      (hresolve : documenter.registry.resolve path = .ok profile)
      (hread : perform s (Disk.readText path) = (.ok source, loaded))
      (hpage : (documenter.page outside path source).result = .ok page)
      (hmake : perform loaded (Disk.makeDirectories documenter.output) = (.error reason, later)) :
      Published documenter outside path s
        ⟨.error (.unwritable documenter.output reason),
          (documenter.page outside path source).events⟩ later
  | unwritten {profile : Profile} {source page : Text} {reason : OsError}
      {loaded between later : σ}
      (hresolve : documenter.registry.resolve path = .ok profile)
      (hread : perform s (Disk.readText path) = (.ok source, loaded))
      (hpage : (documenter.page outside path source).result = .ok page)
      (hmake : perform loaded (Disk.makeDirectories documenter.output) = (.ok (), between))
      (hwrite : perform between
        (Disk.write (Page.location documenter.output path) (Utf8.encode page))
          = (.error reason, later)) :
      Published documenter outside path s
        ⟨.error (.unwritable (Page.location documenter.output path) reason),
          (documenter.page outside path source).events⟩ later
  | written {profile : Profile} {source page : Text} {loaded between later : σ}
      (hresolve : documenter.registry.resolve path = .ok profile)
      (hread : perform s (Disk.readText path) = (.ok source, loaded))
      (hpage : (documenter.page outside path source).result = .ok page)
      (hmake : perform loaded (Disk.makeDirectories documenter.output) = (.ok (), between))
      (hwrite : perform between
        (Disk.write (Page.location documenter.output path) (Utf8.encode page)) = (.ok (), later)) :
      Published documenter outside path s
        ⟨.ok (Page.location documenter.output path),
          (documenter.page outside path source).events
            ++ [.logged (generated path (Page.location documenter.output path))]⟩ later

/-- Without its directory a page is not written. -/
theorem perform_save_of_no_directory {reason : OsError}
    (hmake : perform s (Disk.makeDirectories documenter.output) = (.error reason, later)) :
    perform s (documenter.save path page)
      = (⟨.error (.unwritable documenter.output reason), []⟩, later) := by
  rw [save, Disk.perform_bind, hmake]
  rfl

/-- Behind its directory a page is written, if the disk takes it. -/
theorem perform_save_of_directory {between : σ}
    (hmake : perform s (Disk.makeDirectories documenter.output) = (.ok (), between)) :
    perform s (documenter.save path page)
      = match perform between
          (Disk.write (Page.location documenter.output path) (Utf8.encode page)) with
        | (.error reason, later) =>
          (⟨.error (.unwritable (Page.location documenter.output path) reason), []⟩, later)
        | (.ok _, later) =>
          (⟨.ok (Page.location documenter.output path),
            [.logged (generated path (Page.location documenter.output path))]⟩, later) := by
  rw [save, Disk.perform_bind, hmake]
  show perform between (Disk.write _ _ >>= _) = _
  rw [Disk.perform_bind]
  cases perform between
    (Disk.write (Page.location documenter.output path) (Utf8.encode page)) with
  | mk written later =>
    cases written with
    | error reason => rfl
    | ok _ => rfl

/-- Publishing comes to one of these outcomes. -/
theorem published (documenter : Documenter) (outside : Outside) (path : Path) (s : σ) :
    Published documenter outside path s
      (perform s (documenter.publish outside path)).1
      (perform s (documenter.publish outside path)).2 := by
  rw [publish]
  cases hresolve : documenter.registry.resolve path with
  | error reason => exact .unresolved hresolve
  | ok profile =>
    show Published documenter outside path s
      (perform s (documenter.publishIn outside profile path)).1
      (perform s (documenter.publishIn outside profile path)).2
    rw [publishIn, Disk.perform_bind]
    cases hread : perform s (Disk.readText path) with
    | mk found loaded =>
      cases found with
      | error reason => exact .unread hresolve hread
      | ok source =>
        -- The program lays out the page in the language at hand, and not anew.
        dsimp only
        rw [← page_of_resolve hresolve]
        cases hpage : (documenter.page outside path source).result with
        | error e => exact .undrawn hresolve hread hpage
        | ok page =>
          show Published documenter outside path s
            ((perform loaded (documenter.save path page)).1.after
              (documenter.page outside path source).events)
            (perform loaded (documenter.save path page)).2
          cases hmake : perform loaded (Disk.makeDirectories documenter.output) with
          | mk made between =>
            cases made with
            | error reason =>
              rw [perform_save_of_no_directory hmake, Traced.after, List.append_nil]
              exact .noDirectory hresolve hread hpage hmake
            | ok _ =>
              rw [perform_save_of_directory hmake]
              cases hwrite : perform between
                  (Disk.write (Page.location documenter.output path) (Utf8.encode page)) with
              | mk written later =>
                cases written with
                | error reason =>
                  dsimp only
                  rw [Traced.after, List.append_nil]
                  exact .unwritten hresolve hread hpage hmake hwrite
                | ok _ => exact .written hresolve hread hpage hmake hwrite

/-- Where a path is reported, the page of what was read is written
there. -/
theorem Published.written_of_ok {target : Path}
    (h : Published documenter outside path s outcome later)
    (hok : outcome.result = .ok target) :
    target = Page.location documenter.output path
      ∧ ∃ (source page : Text) (between : σ), (perform s (Disk.readText path)).1 = .ok source
        ∧ (documenter.page outside path source).result = .ok page
        ∧ perform between (Disk.write target (Utf8.encode page)) = (.ok (), later) := by
  cases h with
  | unresolved hresolve => cases hok
  | unread hresolve hread => cases hok
  | undrawn hresolve hread hpage => cases hok
  | noDirectory hresolve hread hpage hmake => cases hok
  | unwritten hresolve hread hpage hmake hwrite => cases hok
  | written hresolve hread hpage hmake hwrite =>
    cases hok
    exact ⟨rfl, _, _, _, by rw [hread], hpage, hwrite⟩

/-! ### What is left behind -/

section Lawful

variable [LawfulDisk σ]

/-- Directories on the way to `output` and what `target` leads to are all
that is new in `later`. -/
structure Spares (output target : Path) (s later : σ) : Prop where
  keeps : Disk.Keeps s later
  others : ∀ place : Place σ, find? later target ≠ some place →
    at? later place = at? s place
      ∨ (at? s place = none ∧ at? later place = some .directory
        ∧ ∃ around ∈ Disk.way output, find? later around = some place)

/-- New directories alone spare everything else, wherever the target
leads. -/
theorem spares_of_gains {output target : Path} (h : Disk.Gains (Disk.way output) s later) :
    Spares output target s later :=
  ⟨h.keeps, fun place _ => h.gained place⟩

/-- So does a file that is put where the target leads. -/
theorem spares_of_puts {output target : Path} {between : σ} {place : Place σ} {content : Bytes}
    (h : Disk.Gains (Disk.way output) s between)
    (hputs : Disk.Puts place target (.file content) between later) :
    Spares output target s later where
  keeps := h.keeps.trans hputs.keeps
  others other hother := by
    have hne : other ≠ place := fun heq => hother (heq ▸ hputs.find)
    rcases h.gained other with hsame | ⟨hnone, hdirectory, around, haround, hfind⟩
    · exact .inl ((hputs.others other hne).trans hsame)
    · exact .inr ⟨hnone, (hputs.others other hne).trans hdirectory, around, haround,
        hputs.keeps.find hfind⟩

/-- Where a write failed, the file that it was for is all that may have
changed besides. -/
theorem spares_of_write_error {output target : Path} {between : σ} {content : Bytes}
    {reason : OsError} (h : Disk.Gains (Disk.way output) s between)
    (hwrite : perform between (Disk.write target content) = (.error reason, later)) :
    Spares output target s later := by
  rcases LawfulDisk.write_error hwrite with hsame | ⟨place, kept, hputs⟩
  · exact spares_of_gains (h.trans (hsame.gains _))
  · exact spares_of_puts h hputs

/-- A page is in its place, and whoever can read it reads it. The
directories on the way there are all that is new besides. -/
structure Saved (output target : Path) (page : Text) (s later : σ) : Prop
    extends Spares output target s later where
  holds : Disk.Holds later target (Utf8.encode page)
  read : ∀ content, (perform later (Disk.read target)).1 = .ok content →
    content = Utf8.encode page
  directories : ∀ around ∈ Disk.way output, Disk.IsDirectory later around

theorem saved_of_write {output target : Path} {between : σ}
    (hmake : perform s (Disk.makeDirectories output) = (.ok (), between))
    (hwrite : perform between (Disk.write target (Utf8.encode page)) = (.ok (), later)) :
    Saved output target page s later := by
  have hgains := Disk.gains_makeDirectories output s
  rw [hmake] at hgains
  obtain ⟨place, hputs⟩ := LawfulDisk.write_ok hwrite
  have hpage : Disk.Holds later target (Utf8.encode page) := ⟨place, hputs.find, hputs.there⟩
  refine ⟨spares_of_puts hgains hputs, hpage, fun content hread => ?_, fun around haround => ?_⟩
  · exact (LawfulDisk.holds_of_read hread).unique hpage
  · have hdirectory := Disk.isDirectory_makeDirectories (s := s) (by rw [hmake]) haround
    rw [hmake] at hdirectory
    obtain ⟨found, hfind, hat⟩ := hdirectory
    exact ⟨found, hputs.keeps.find hfind, hputs.directory hat⟩

/-- **Publishing a file.** For every documenter, every outside, every path
and every state of a lawful disk:

- If the language is not known, publishing is no program at all but its
  error: on no disk does it read, and no highlighter is asked.
- If the file cannot be read, that is the error. Nothing is asked of the
  outside, and the disk is as before.
- Otherwise what is asked of the outside is what the highlighter asks for
  when it is called once, with the name of the language and the blob of
  all sections. That is never nothing.
- If the page cannot be laid out, its error is the error, and the disk is
  as before.
- If a path is reported, it is that of the page, which is in its place.
  Nothing else is new but the output directory and those around it.
- The only other error is that something could not be written. If it was
  the output directory, every file has the content it had. If it was the
  page, every file has that its path does not lead to. In both cases only
  directories are new besides. -/
theorem publish_atomic (documenter : Documenter) (outside : Outside) (path : Path) (s : σ) :
    let outcome := (perform s (documenter.publish outside path)).1
    let later := (perform s (documenter.publish outside path)).2
    let target := Page.location documenter.output path
    match documenter.registry.resolve path with
    | .error reason =>
      (outcome = ⟨.error (.language reason), []⟩ ∧ later = s)
        ∧ ∀ (m : Type → Type) [Monad m] [Disk m],
          documenter.publish outside path = (pure ⟨.error (.language reason), []⟩ : m _)
    | .ok profile =>
      match (perform s (Disk.readText path)).1 with
      | .error reason => outcome = ⟨.error (.unreadable path reason), []⟩ ∧ later = s
      | .ok source =>
        Highlight.requests outcome.events
            = Highlight.requests (documenter.highlighter.run outside profile.name
                (blob profile (profile.segment source))).events
          ∧ Highlight.requests outcome.events ≠ []
          ∧ match (documenter.page outside path source).result with
            | .error e => outcome.result = .error e ∧ later = s
            | .ok page =>
              match outcome.result with
              | .ok reported => reported = target ∧ Saved documenter.output target page s later
              | .error e =>
                (∃ reason, e = .unwritable documenter.output reason
                    ∧ (∀ (place : Place σ) content, at? s place = some (.file content) →
                        at? later place = some (.file content))
                    ∧ Disk.Gains (Disk.way documenter.output) s later)
                  ∨ ∃ reason, e = .unwritable target reason
                    ∧ (∀ (place : Place σ) content, at? s place = some (.file content) →
                        find? later target ≠ some place →
                        at? later place = some (.file content))
                    ∧ Spares documenter.output target s later := by
  have h := published documenter outside path s
  intro outcome later target
  have hgains := Disk.gains_makeDirectories documenter.output s
  -- The cases only know the outcome and the state that is left.
  change Published documenter outside path s outcome later at h
  clear_value outcome later
  cases h with
  | unresolved hresolve =>
    rw [hresolve]
    exact ⟨⟨rfl, rfl⟩, fun m _ _ => by rw [publish, hresolve]⟩
  | unread hresolve hread =>
    simp only [hresolve, hread, true_and]
    exact Disk.eq_of_readText hread
  | @undrawn profile source _ _ hresolve hread hpage =>
    have hrequests := requests_page outside source hresolve
    simp only [hresolve, hread, hpage]
    exact ⟨hrequests.1, hrequests.2, trivial, Disk.eq_of_readText hread⟩
  | @noDirectory profile source _ reason loaded _ hresolve hread hpage hmake =>
    have hrequests := requests_page outside source hresolve
    obtain rfl := Disk.eq_of_readText hread
    rw [hmake] at hgains
    simp only [hresolve, hread, hpage]
    exact ⟨hrequests.1, hrequests.2, .inl ⟨reason, rfl, fun _ _ => hgains.file, hgains⟩⟩
  | @unwritten profile source _ reason loaded between _ hresolve hread hpage hmake hwrite =>
    have hrequests := requests_page outside source hresolve
    obtain rfl := Disk.eq_of_readText hread
    rw [hmake] at hgains
    have hspares := spares_of_write_error hgains hwrite
    simp only [hresolve, hread, hpage]
    refine ⟨hrequests.1, hrequests.2, .inr ⟨reason, rfl, fun place content hfile hother => ?_,
      hspares⟩⟩
    rcases hspares.others place hother with hsame | ⟨hnone, -⟩
    · exact hsame.trans hfile
    · cases hnone.symm.trans hfile
  | @written profile source _ loaded between _ hresolve hread hpage hmake hwrite =>
    have hrequests := requests_page outside source hresolve
    obtain rfl := Disk.eq_of_readText hread
    simp only [hresolve, hread, hpage, Highlight.requests_append_logged]
    exact ⟨hrequests.1, hrequests.2, rfl, saved_of_write hmake hwrite⟩

end Lawful

/-! ### A disk that runs full -/

/-- A documenter with a tool that knows the markup of one file. -/
def knowingDocumenter (output : Path) : Documenter where
  registry := .builtin
  highlighter := .given "tool" "tool" fun _ _ => .ok
    "<div class=\"highlight\"><pre>x = 1\n\n<span>#DIVIDER</span>\n</pre></div>\n"
  output := output
  sources := []

/-- That file and an older page of it. -/
def pagedTree (room : Option Nat) : FileTree where
  entries := [(["a.py"], .file (Utf8.encode "x = 1\n")), (["docs"], .directory),
    (["a.html", "docs"], .file (Utf8.encode "old"))]
  here := []
  room := room

/-- Publishing the file to a directory. -/
def publishPaged (room : Option Nat) (output : Path) : Traced (Except Error Path) × FileTree :=
  perform (pagedTree room) ((knowingDocumenter output).publish .none ⟨"a.py"⟩)

/-- Where the disk is full, the older page is lost and the new one cut
short. Where it is not, a directory that the path of the output directory
only passes through is made as well. -/
theorem oldPageLost :
    ((publishPaged (some 0) ⟨"docs"⟩).1.result = .error (.unwritable ⟨"docs/a.html"⟩ .noSpace)
        ∧ (pagedTree (some 0)).read ⟨"docs/a.html"⟩ = .ok (Utf8.encode "old")
        ∧ (publishPaged (some 0) ⟨"docs"⟩).2.read ⟨"docs/a.html"⟩ = .ok (Utf8.encode "<!D"))
      ∧ (publishPaged none ⟨"new/../docs"⟩).1.result = .ok ⟨"new/../docs/a.html"⟩
      ∧ (pagedTree none).isDirectory ⟨"new"⟩ = false
      ∧ (publishPaged none ⟨"new/../docs"⟩).2.isDirectory ⟨"new"⟩ = true := by
  decide +kernel

end Documenter

end Marginalia
