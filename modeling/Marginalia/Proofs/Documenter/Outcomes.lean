import Marginalia.Proofs.Documenter.Turns

/-!
# `Marginalia.Proofs.Documenter.Outcomes`: what turns do to a disk

A turn that fails before it comes to writing leaves the disk as it was
(`Published.unchanged`). What any turn can do to a place is said by
`Published.at?_cases`: nothing, or it makes a directory where nothing was,
or a file is there behind it and the page was sent there (`Sent`).
`at?_diskAfter_cases` carries this over several turns. So a file to whose
place no page is sent keeps its content (`file_diskAfter`).

A page is sent whether it arrives or not, as a write that fails may spoil
what it was to replace. Of all turns that are sent to one place, one is the
last (`exists_lastSent`). If that one is reported, its page is there in the
end (`LastSent.holdsPage`).
-/

set_option autoImplicit false

namespace Marginalia.Documenter

open Disk (perform)
open DiskView (Place find? at?)
open Highlight (Outside Traced)

variable {σ : Type} [Disk (StateM σ)] {documenter : Documenter} {path target : Path} {s later : σ}
  {outcome : Traced (Except Error Path)}

/-! ### One turn -/

section Turn

variable {outside : Outside}

/-- Only what comes to writing leaves something behind. -/
theorem Published.unchanged [LawfulDisk σ] {e : Error}
    (h : Published documenter outside path s outcome later) (herror : outcome.result = .error e)
    (hwrite : ∀ refused reason, e ≠ .unwritable refused reason) : later = s := by
  cases h with
  | unresolved hresolve => rfl
  | unread hresolve hread => exact Disk.eq_of_readText hread
  | undrawn hresolve hread hpage => exact Disk.eq_of_readText hread
  | noDirectory hresolve hread hpage hmake =>
    cases herror
    exact absurd rfl (hwrite _ _)
  | unwritten hresolve hread hpage hmake hwritten =>
    cases herror
    exact absurd rfl (hwrite _ _)
  | written hresolve hread hpage hmake hwritten => cases herror

/-- The page of a source has been sent to its path: it was written, or
writing it failed. -/
def Sent (documenter : Documenter) (source target : Path)
    (outcome : Traced (Except Error Path)) : Prop :=
  target = Page.location documenter.output source
    ∧ (outcome.result = .ok target ∨ ∃ reason, outcome.result = .error (.unwritable target reason))

/-- A path that is reported is one that the page was sent to. -/
theorem Published.sent_of_ok (h : Published documenter outside path s outcome later)
    (hok : outcome.result = .ok target) : Sent documenter path target outcome :=
  ⟨(h.written_of_ok hok).1, .inl hok⟩

/-- Only the page of a source that could be read is sent anywhere. -/
theorem Published.exists_text_of_sent (h : Published documenter outside path s outcome later)
    (hsent : Sent documenter path target outcome) :
    ∃ text, (perform s (Disk.readText path)).1 = .ok text := by
  obtain ⟨-, hresult⟩ := hsent
  cases h with
  | unresolved hresolve => rcases hresult with hresult | ⟨reason, hresult⟩ <;> cases hresult
  | unread hresolve hread => rcases hresult with hresult | ⟨reason, hresult⟩ <;> cases hresult
  | undrawn hresolve hread hpage => exact ⟨_, by rw [hread]⟩
  | noDirectory hresolve hread hpage hmake => exact ⟨_, by rw [hread]⟩
  | unwritten hresolve hread hpage hmake hwrite => exact ⟨_, by rw [hread]⟩
  | written hresolve hread hpage hmake hwrite => exact ⟨_, by rw [hread]⟩

/-- What publishing does to a place: nothing, or it makes a directory
where nothing was, or a file is there and the page was sent to it. -/
theorem Published.at?_cases [LawfulDisk σ]
    (h : Published documenter outside path s outcome later) (place : Place σ) :
    at? later place = at? s place
      ∨ (at? s place = none ∧ at? later place = some .directory)
      ∨ ∃ target content, Sent documenter path target outcome
        ∧ find? later target = some place ∧ at? later place = some (.file content) := by
  have hgains := Disk.gains_makeDirectories documenter.output s
  -- Making directories does one of the first two things.
  have hmade : ∀ {loaded made between}, loaded = s →
      perform loaded (Disk.makeDirectories documenter.output) = (made, between) →
      at? between place = at? s place
        ∨ (at? s place = none ∧ at? between place = some .directory) := by
    rintro loaded made between rfl hmake
    rw [hmake] at hgains
    exact (hgains.gained place).imp_right fun h => ⟨h.1, h.2.1⟩
  -- A file that is put somewhere leaves other places to the directories.
  have hput : ∀ {target content put between}, Sent documenter path target outcome →
      Disk.Puts put target (.file content) between later →
      at? between place = at? s place
        ∨ (at? s place = none ∧ at? between place = some .directory) →
      at? later place = at? s place
        ∨ (at? s place = none ∧ at? later place = some .directory)
        ∨ ∃ target content, Sent documenter path target outcome
          ∧ find? later target = some place ∧ at? later place = some (.file content) := by
    intro target content put between hsent hputs hbetween
    by_cases hplace : place = put
    · subst hplace
      exact .inr (.inr ⟨target, content, hsent, hputs.find, hputs.there⟩)
    · rw [hputs.others place hplace]
      exact hbetween.imp_right .inl
  cases h with
  | unresolved hresolve => exact .inl rfl
  | unread hresolve hread => exact .inl (by rw [Disk.eq_of_readText hread])
  | undrawn hresolve hread hpage => exact .inl (by rw [Disk.eq_of_readText hread])
  | noDirectory hresolve hread hpage hmake =>
    exact (hmade (Disk.eq_of_readText hread) hmake).imp_right .inl
  | unwritten hresolve hread hpage hmake hwrite =>
    have hbetween := hmade (Disk.eq_of_readText hread) hmake
    rcases LawfulDisk.write_error hwrite with hsame | ⟨put, kept, hputs⟩
    · rw [hsame.same]
      exact hbetween.imp_right .inl
    · exact hput ⟨rfl, .inr ⟨_, rfl⟩⟩ hputs hbetween
  | written hresolve hread hpage hmake hwrite =>
    obtain ⟨put, hputs⟩ := LawfulDisk.write_ok hwrite
    exact hput ⟨rfl, .inl rfl⟩ hputs (hmade (Disk.eq_of_readText hread) hmake)

end Turn

/-! ### Several turns -/

variable [LawfulDisk σ] {outside : Nat → Outside} {file owner : Path}
  {files front back behind : List Path} {content : Bytes}

/-- What several turns do to a place: nothing, or they make a directory
where nothing was, or a file is there in the end and a page was sent to
it. -/
theorem at?_diskAfter_cases (documenter : Documenter) (outside : Nat → Outside) (s : σ)
    (front back : List Path) (place : Place σ) :
    let before := documenter.diskAfter outside s front
    let later := documenter.diskAfter outside s (front ++ back)
    at? later place = at? before place
      ∨ (at? before place = none ∧ at? later place = some .directory)
      ∨ ∃ between file behind target content, back = between ++ file :: behind
        ∧ Sent documenter file target (documenter.outcomeAfter outside s (front ++ between) file)
        ∧ find? later target = some place ∧ at? later place = some (.file content) := by
  induction back using List.reverseRecOn with
  | nil =>
    rw [List.append_nil]
    exact .inl rfl
  | append_singleton back last ih =>
    intro before later
    have hturn := published_after documenter outside s (front ++ back) last
    have hlater : documenter.diskAfter outside s (front ++ back ++ [last]) = later := by
      rw [List.append_assoc]
    rw [hlater] at hturn
    clear_value later
    have hkeeps := hturn.stable (Disk.stable_keeps _) (.refl _)
    -- A page of the last turn decides; otherwise the turns before do.
    rcases hturn.at?_cases place with
      hsame | ⟨hnone, hdirectory⟩ | ⟨target, content, hsent, hfind, hfile⟩
    · rw [hsame]
      refine ih.imp_right (Or.imp_right ?_)
      rintro ⟨between, file, behind, target, content, rfl, hsent, hfind, hfile⟩
      exact ⟨between, file, behind ++ [last], target, content, by simp, hsent, hkeeps.find hfind,
        hfile⟩
    · rcases ih with hbefore | ⟨-, hthere⟩ | ⟨_, _, _, _, _, -, -, -, hthere⟩
      · exact .inr (.inl ⟨hbefore.symm.trans hnone, hdirectory⟩)
      · cases hnone.symm.trans hthere
      · cases hnone.symm.trans hthere
    · exact .inr (.inr ⟨back, last, [], target, content, rfl, hsent, hfind, hfile⟩)

/-- A file keeps its content if no page is sent to its place. -/
theorem file_diskAfter {place : Place σ}
    (hfile : at? (documenter.diskAfter outside s front) place = some (.file content))
    (h : ∀ between file behind target, back = between ++ file :: behind →
      Sent documenter file target (documenter.outcomeAfter outside s (front ++ between) file) →
      find? (documenter.diskAfter outside s (front ++ back)) target ≠ some place) :
    at? (documenter.diskAfter outside s (front ++ back)) place = some (.file content) := by
  rcases at?_diskAfter_cases documenter outside s front back place with
    hsame | ⟨hnone, -⟩ | ⟨between, file, behind, target, -, hsplit, hsent, hfind, -⟩
  · exact hsame.trans hfile
  · cases hnone.symm.trans hfile
  · exact absurd hfind (h between file behind target hsplit hsent)

/-- A file stays a file. -/
theorem exists_file_diskAfter {place : Place σ}
    (hfile : at? (documenter.diskAfter outside s front) place = some (.file content))
    (back : List Path) :
    ∃ content, at? (documenter.diskAfter outside s (front ++ back)) place
      = some (.file content) := by
  rcases at?_diskAfter_cases documenter outside s front back place with
    hsame | ⟨hnone, -⟩ | ⟨_, _, _, _, content, -, -, -, hlater⟩
  · exact ⟨content, hsame.trans hfile⟩
  · cases hnone.symm.trans hfile
  · exact ⟨content, hlater⟩

/-! ### The last page that is sent -/

/-- Of the turns of which something holds, one is the last. -/
theorem exists_last_turn {p : List Path → Path → Prop} (front : List Path) (file : Path)
    (behind : List Path) (h : p front file) :
    ∃ before owner rest, front ++ file :: behind = before ++ owner :: rest ∧ p before owner
      ∧ ∀ between other last, rest = between ++ other :: last →
        ¬p (before ++ owner :: between) other := by
  -- Either it holds of a later turn too, or this one is the last.
  by_cases hlater : ∃ between other last, behind = between ++ other :: last
      ∧ p (front ++ file :: between) other
  · obtain ⟨between, other, last, rfl, hother⟩ := hlater
    obtain ⟨before, owner, rest, hsplit, howner, hrest⟩ :=
      exists_last_turn (front ++ file :: between) other last hother
    exact ⟨before, owner, rest, by rw [← hsplit]; simp, howner, hrest⟩
  · exact ⟨front, file, behind, rfl, h, fun between other last hsplit hother =>
      hlater ⟨between, other, last, hsplit, hother⟩⟩
termination_by behind.length

/-- The turn of `owner` behind the files `before` is the last one of a run
that is sent to the place that `path` leads to in the end. -/
structure LastSent (documenter : Documenter) (outside : Nat → Outside) (s : σ)
    (files : List Path) (path : Path) (before : List Path) (owner target : Path)
    (rest : List Path) : Prop where
  split : files = before ++ owner :: rest
  sent : Sent documenter owner target (documenter.outcomeAfter outside s before owner)
  leads : Disk.SamePlace (documenter.diskAfter outside s files) target path
  last : ∀ between other behind target', rest = between ++ other :: behind →
    Sent documenter other target'
      (documenter.outcomeAfter outside s (before ++ owner :: between) other) →
    ¬Disk.SamePlace (documenter.diskAfter outside s files) target' path

/-- A path that is reported leads somewhere in the end. -/
theorem samePlace_of_ok (hsplit : files = front ++ file :: behind)
    (hok : (documenter.outcomeAfter outside s front file).result = .ok target) :
    Disk.SamePlace (documenter.diskAfter outside s files) target target := by
  have hturn := published_after documenter outside s front file
  obtain ⟨-, _, _, _, -, -, hwrite⟩ := hturn.written_of_ok hok
  obtain ⟨place, hputs⟩ := LawfulDisk.write_ok hwrite
  have hfind := (keeps_diskAfter documenter outside s (front ++ [file]) behind).find hputs.find
  rw [List.append_assoc, List.singleton_append, ← hsplit] at hfind
  exact ⟨place, hfind, hfind⟩

/-- A turn that is reported is the last one if behind it no page is sent to
its place. -/
theorem lastSent_of_ok (hsplit : files = front ++ file :: behind)
    (hok : (documenter.outcomeAfter outside s front file).result = .ok target)
    (halone : ∀ between other rest sent, behind = between ++ other :: rest →
      Sent documenter other sent
        (documenter.outcomeAfter outside s (front ++ file :: between) other) →
      ¬Disk.SamePlace (documenter.diskAfter outside s files) sent target) :
    LastSent documenter outside s files target front file target behind where
  split := hsplit
  sent := (published_after documenter outside s front file).sent_of_ok hok
  leads := samePlace_of_ok hsplit hok
  last := halone

/-- Where any turn is sent, there is a last one. -/
theorem exists_lastSent (hsplit : files = front ++ file :: behind)
    (hsent : Sent documenter file target (documenter.outcomeAfter outside s front file))
    (hleads : Disk.SamePlace (documenter.diskAfter outside s files) target path) :
    ∃ before owner target rest,
      LastSent documenter outside s files path before owner target rest := by
  obtain ⟨before, owner, rest, hlast, ⟨target, hsent, hleads⟩, hrest⟩ :=
    exists_last_turn (p := fun front file => ∃ target,
      Sent documenter file target (documenter.outcomeAfter outside s front file)
        ∧ Disk.SamePlace (documenter.diskAfter outside s files) target path)
      front file behind ⟨target, hsent, hleads⟩
  exact ⟨before, owner, target, rest, hsplit.trans hlast, hsent, hleads,
    fun between other last target' hsplit hsent hleads =>
      hrest between other last hsplit ⟨target', hsent, hleads⟩⟩

/-- In the end `target` has the page of `file`, laid out from what was in
the file at its turn behind the files `front`. -/
def HoldsPage (documenter : Documenter) (outside : Nat → Outside) (s later : σ)
    (front : List Path) (file target : Path) : Prop :=
  ∃ source page,
    (perform (documenter.diskAfter outside s front) (Disk.readText file)).1 = .ok source
    ∧ (documenter.page (outside front.length) file source).result = .ok page
    ∧ Disk.Holds later target (Utf8.encode page)

/-- If the last turn that is sent somewhere is reported, its page is there
in the end. -/
theorem LastSent.holdsPage (h : LastSent documenter outside s files path front owner target back)
    (hok : (documenter.outcomeAfter outside s front owner).result = .ok target) :
    HoldsPage documenter outside s (documenter.diskAfter outside s files) front owner path := by
  have hsplit : files = (front ++ [owner]) ++ back := by
    rw [List.append_assoc]
    exact h.split
  have hturn := published_after documenter outside s front owner
  obtain ⟨-, source, page, between, hread, hpage, hwrite⟩ := hturn.written_of_ok hok
  refine ⟨source, page, hread, hpage, ?_⟩
  -- The page is in place behind its turn, and no later page is sent to that place.
  obtain ⟨place, hputs⟩ := LawfulDisk.write_ok hwrite
  have hfind := (keeps_diskAfter documenter outside s (front ++ [owner]) back).find hputs.find
  obtain ⟨place', htarget, hpath⟩ := h.leads
  rw [hsplit] at htarget hpath
  cases hfind.symm.trans htarget
  have hheld : at? (documenter.diskAfter outside s files) place
      = some (.file (Utf8.encode page)) := by
    rw [hsplit]
    refine file_diskAfter hputs.there fun between other behind target' hrest hsent hleads => ?_
    rw [List.append_assoc] at hsent
    refine h.last between other behind target' hrest hsent ⟨place, ?_, ?_⟩
    · rw [hsplit]
      exact hleads
    · rw [hsplit]
      exact hpath
  exact ⟨place, by rw [hsplit]; exact hpath, hheld⟩

end Marginalia.Documenter
