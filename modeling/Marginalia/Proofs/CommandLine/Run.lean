import Marginalia.CommandLine.Run
import Marginalia.Proofs.Documenter.Outcomes

/-!
# `Marginalia.Proofs.CommandLine.Run`: what a run comes to

What a run does follows from the configuration that it finds: `setUp` has
either an outcome without any file or the documenter for all of them.
`document_eq` says this of every disk. Each file has its turn, in order and
whatever the others came to, and `finish` makes the outcome of the run from
what the turns came to (`tallyOf_eq`, `finish_eq`).

A run therefore ends in one of three ways (`Ended`, `ended`), on any disk.
Looking for a configuration is reading, so on a lawful disk it leaves no
trace (`state_configOf`), and only the last of the three ways does.
-/

set_option autoImplicit false

namespace Marginalia.CommandLine

open Disk (perform)
open Highlight (Event Outside Traced)

variable {documenter : Documenter} {outside : Nat → Outside} {arguments : Arguments}
  {files : List Path} {σ : Type} [Disk (StateM σ)] {s : σ}

/-! ### Before the first file -/

/-- Looking for a configuration changes nothing. -/
theorem state_configOf [LawfulDisk σ] [Language.Patterns] (arguments : Arguments) (s : σ) :
    (perform s (configOf arguments)).2 = s := by
  have hload : ∀ path, (perform s (Config.load path)).2 = s := by
    intro path
    have hstate := Disk.state_readText s path
    rw [Config.load, Disk.perform_bind]
    cases (perform s (Disk.readText path)).1 with
    | error reason => exact hstate
    | ok text => exact hstate
  rw [configOf]
  cases arguments.config with
  | some path => exact hload path
  | none =>
    show (perform s (Config.discover ⟨"."⟩)).2 = s
    rw [Config.discover, Disk.perform_bind, LawfulDisk.state_isFile]
    split
    · exact hload _
    · rfl

/-! ### All files -/

/-- The tally of a list of files, each with what it came to. -/
def tallyOf (turns : List (Path × Traced (Except Documenter.Error Path))) : Tally :=
  turns.foldl (fun tally turn => tally.add turn.1 turn.2) Tally.zero

/-- Whether a file has no page. -/
def failed (outcome : Traced (Except Documenter.Error Path)) : Bool :=
  match outcome.result with
  | .ok _ => false
  | .error _ => true

/-- What is printed about a file. -/
def printedFor (outcome : Traced (Except Documenter.Error Path)) : Text :=
  match outcome.result with
  | .ok target => "Generated: " ++ target.text ++ ['\n']
  | .error _ => []

/-- What is done for a file, with the complaint about one without a
page. -/
def eventsFor (file : Path) (outcome : Traced (Except Documenter.Error Path)) : List Event :=
  match outcome.result with
  | .ok _ => outcome.events
  | .error e => outcome.events ++ [.logged (undocumented file e)]

theorem add_eq (tally : Tally) (file : Path)
    (outcome : Traced (Except Documenter.Error Path)) :
    tally.add file outcome
      = ⟨tally.failed + (if failed outcome then 1 else 0), tally.printed ++ printedFor outcome,
        tally.events ++ eventsFor file outcome⟩ := by
  unfold Tally.add failed printedFor eventsFor
  cases outcome.result with
  | ok target => simp
  | error e => simp

/-- The files without a page are counted, the others printed, and
everything that is done for any of them is noted. -/
theorem tallyOf_eq (turns : List (Path × Traced (Except Documenter.Error Path))) :
    tallyOf turns
      = ⟨turns.countP (failed ·.2), turns.flatMap (printedFor ·.2),
        turns.flatMap fun turn => eventsFor turn.1 turn.2⟩ := by
  -- The fold goes on from any tally.
  have hfold : ∀ (tally : Tally),
      turns.foldl (fun tally turn => tally.add turn.1 turn.2) tally
        = ⟨tally.failed + turns.countP (failed ·.2),
          tally.printed ++ turns.flatMap (printedFor ·.2),
          tally.events ++ turns.flatMap fun turn => eventsFor turn.1 turn.2⟩ := by
    induction turns with
    | nil =>
      intro tally
      simp
    | cons turn turns ih =>
      intro tally
      rw [List.foldl_cons, ih, add_eq, List.countP_cons]
      simp only [List.flatMap_cons, List.append_assoc, Tally.mk.injEq, and_true]
      omega
  rw [tallyOf, hfold]
  simp [Tally.zero]

/-- Documenting the files is publishing each of them at its turn and
counting what they come to, on every disk. -/
theorem publishAll_eq_mapM {m : Type → Type} [Monad m] [LawfulMonad m] [Disk m]
    (documenter : Documenter) (outside : Nat → Outside) (files : List Path) :
    (publishAll documenter outside files : m Tally)
      = (fun outcomes => tallyOf (files.zip outcomes))
        <$> files.zipIdx.mapM fun turn => documenter.publish (outside turn.2) turn.1 := by
  -- The loop goes on from any tally, at any turn.
  have hloop : ∀ (turn : Nat) (tally : Tally),
      ((files.zipIdx turn).foldlM
          (fun tally turn => return tally.add turn.1 (← documenter.publish (outside turn.2) turn.1))
          tally : m Tally)
        = (fun outcomes => (files.zip outcomes).foldl
            (fun tally turn => tally.add turn.1 turn.2) tally)
          <$> (files.zipIdx turn).mapM fun turn => documenter.publish (outside turn.2) turn.1 := by
    induction files with
    | nil =>
      intro turn tally
      simp only [List.zipIdx_nil, List.foldlM_nil, List.mapM_nil, map_pure, List.zip_nil_left,
        List.foldl_nil]
    | cons file files ih =>
      intro turn tally
      simp only [List.zipIdx_cons, List.foldlM_cons, List.mapM_cons, bind_assoc, pure_bind,
        map_bind, map_pure, List.zip_cons_cons, List.foldl_cons, ih]
      simp only [map_eq_pure_bind]
  exact hloop 0 Tally.zero

/-- The files have their turns in order. -/
theorem perform_mapM_publish (documenter : Documenter) (outside : Nat → Outside)
    (files : List Path) (s : σ) :
    perform s (files.zipIdx.mapM fun turn => documenter.publish (outside turn.2) turn.1)
      = (documenter.outcomes outside s files, documenter.diskAfter outside s files) := by
  -- From any turn on, `rest` is the outside of the turns to come.
  have hfrom : ∀ (start : Nat) (rest : Nat → Outside) (s : σ),
      (∀ turn, outside (start + turn) = rest turn) →
      perform s ((files.zipIdx start).mapM fun turn =>
          documenter.publish (outside turn.2) turn.1)
        = (documenter.outcomes rest s files, documenter.diskAfter rest s files) := by
    induction files with
    | nil => exact fun _ _ _ _ => rfl
    | cons file files ih =>
      intro start rest s hrest
      have hnow : outside start = rest 0 := hrest 0
      have hnext : ∀ turn, outside (start + 1 + turn) = rest (turn + 1) := fun turn => by
        rw [← hrest, Nat.add_assoc, Nat.add_comm 1]
      rw [List.zipIdx_cons, List.mapM_cons, Disk.perform_bind, Disk.perform_bind,
        ih (start + 1) _ _ hnext, hnow]
      rfl
  exact hfrom 0 outside s fun turn => by rw [Nat.zero_add]

/-- The outcome of a run whose files all had their turns. -/
def finish (documenter : Documenter) (config : Config) (files : List Path)
    (outcomes : List (Traced (Except Documenter.Error Path))) : Outcome :=
  let outcome := conclude documenter files (tallyOf (files.zip outcomes))
  { outcome with events := .logged (loaded config) :: outcome.events }

/-- What is printed last where every file has a page. -/
def closing (documenter : Documenter) : Text :=
  "\nDocumentation generated in: " ++ documenter.output.text ++ ['\n']

theorem append_closing (documenter : Documenter) (front : Text) :
    front ++ "\nDocumentation generated in: " ++ documenter.output.text ++ ['\n']
      = front ++ closing documenter := by
  unfold closing
  simp only [List.append_assoc]

/-- What does not depend on the names of the files can be read off the
outcomes. -/
theorem flatMap_zip {β : Type} {outcomes : List (Traced (Except Documenter.Error Path))}
    (hlength : outcomes.length = files.length)
    (f : Traced (Except Documenter.Error Path) → List β) :
    (files.zip outcomes).flatMap (f ·.2) = outcomes.flatMap f :=
  calc (files.zip outcomes).flatMap (f ·.2)
      = ((files.zip outcomes).map Prod.snd).flatMap f := by rw [List.flatMap_map]
    _ = outcomes.flatMap f := by rw [List.map_snd_zip (Nat.le_of_eq hlength)]

theorem countP_zip {outcomes : List (Traced (Except Documenter.Error Path))}
    (hlength : outcomes.length = files.length)
    (p : Traced (Except Documenter.Error Path) → Bool) :
    (files.zip outcomes).countP (p ·.2) = outcomes.countP p :=
  calc (files.zip outcomes).countP (p ·.2)
      = ((files.zip outcomes).map Prod.snd).countP p := by
        rw [List.countP_map]
        rfl
    _ = outcomes.countP p := by rw [List.map_snd_zip (Nat.le_of_eq hlength)]

/-- The outcome depends on whether a file has failed. -/
theorem finish_eq (documenter : Documenter) (config : Config)
    {outcomes : List (Traced (Except Documenter.Error Path))}
    (hlength : outcomes.length = files.length) :
    finish documenter config files outcomes
      = if outcomes.countP failed = 0 then
          ⟨.success, outcomes.flatMap printedFor ++ closing documenter,
            .logged (loaded config)
              :: (files.zip outcomes).flatMap fun turn => eventsFor turn.1 turn.2⟩
        else
          ⟨.failure, outcomes.flatMap printedFor,
            .logged (loaded config)
              :: ((files.zip outcomes).flatMap (fun turn => eventsFor turn.1 turn.2)
                ++ [.logged (stopped (countMessage (outcomes.countP failed) files.length))])⟩ := by
  unfold finish conclude
  rw [tallyOf_eq]
  dsimp only
  rw [countP_zip hlength, flatMap_zip hlength]
  by_cases hnone : outcomes.countP failed = 0
  · simp only [if_pos hnone, append_closing]
  · simp only [if_neg hnone]

/-! ### How a run ends -/

/-- What follows from the configuration that is found: an outcome without
any file, or the documenter for all of them with its configuration. -/
def setUp [Language.Patterns] (outside : Outside) (arguments : Arguments) :
    Except Config.Error Config → Except Outcome (Config × Documenter)
  | .error e => .error (abandon [] (chain (loading arguments) e))
  | .ok found =>
    let config := arguments.override found
    match Documenter.ofConfig config with
    | .error e => .error (abandon [.logged (loaded config)] (chain settingUp e))
    | .ok bare =>
      if Documenter.canSetUp outside config.highlighter then
        .ok (config, bare.withSources arguments.files)
      else .error (abandon [.logged (loaded config)] noService)

/-- Where nothing can be set up, the run is abandoned. -/
theorem setUp_eq_error [Language.Patterns] {outside : Outside}
    {found : Except Config.Error Config} {outcome : Outcome}
    (h : setUp outside arguments found = .error outcome) :
    ∃ (records : List Log.Record) (message : Text),
      outcome = abandon (records.map .logged) message
      ∧ ∀ record ∈ records, ∃ config, record = loaded config := by
  unfold setUp at h
  have hloaded : ∀ (config : Config), ∀ record ∈ [loaded config],
      ∃ config, record = loaded config :=
    fun config record hmem => ⟨config, List.mem_singleton.mp hmem⟩
  split at h
  · cases h
    exact ⟨[], _, rfl, fun _ hmem => absurd hmem List.not_mem_nil⟩
  · dsimp only at h
    split at h
    · cases h
      exact ⟨[loaded _], _, rfl, hloaded _⟩
    · split at h
      · cases h
      · cases h
        exact ⟨[loaded _], _, rfl, hloaded _⟩

/-- Where something can be set up, it is the documenter for the files that
the settings ask for. -/
theorem setUp_eq_ok [Language.Patterns] {outside : Outside} {found : Except Config.Error Config}
    {config : Config} (h : setUp outside arguments found = .ok (config, documenter)) :
    ∃ settings bare, found = .ok settings ∧ config = arguments.override settings
      ∧ Documenter.ofConfig config = .ok bare ∧ documenter = bare.withSources arguments.files := by
  cases found with
  | error e => cases h
  | ok settings =>
    dsimp only [setUp] at h
    cases hbare : Documenter.ofConfig (arguments.override settings) with
    | error e =>
      rw [hbare] at h
      cases h
    | ok bare =>
      rw [hbare] at h
      dsimp only at h
      split at h
      · cases h
        exact ⟨settings, bare, rfl, rfl, hbare, rfl⟩
      · cases h

/-- The documenter of a run that comes to its files. -/
def documenter? [Language.Patterns] (outside : Nat → Outside) (arguments : Arguments) (s : σ) :
    Option Documenter :=
  if arguments.files = [] then none
  else (setUp (outside 0) arguments (perform s (configOf arguments)).1).toOption.map Prod.snd

/-- A run with files does what follows from its configuration, on every
disk. -/
theorem document_eq [Language.Patterns] {m : Type → Type} [Monad m] [LawfulMonad m] [Disk m]
    (outside : Nat → Outside) (hfiles : arguments.files ≠ []) :
    (document outside arguments : m Outcome) = (do
      match setUp (outside 0) arguments (← configOf arguments) with
      | .error abandoned => return abandoned
      | .ok (config, documenter) =>
        return finish documenter config arguments.files
          (← arguments.files.zipIdx.mapM fun turn =>
            documenter.publish (outside turn.2) turn.1)) := by
  rw [document, if_neg hfiles]
  refine bind_congr fun found => ?_
  cases found with
  | error e => rfl
  | ok found =>
    dsimp only [setUp]
    cases Documenter.ofConfig (arguments.override found) with
    | error e => rfl
    | ok bare =>
      dsimp only
      split
      · rw [publishAll_eq_mapM, bind_map_left]
        rfl
      · rfl

/-- The ends of a run, each with the state that is left. -/
inductive Ended [Language.Patterns] (outside : Nat → Outside) (arguments : Arguments) (s : σ) :
    Outcome → σ → Prop
  | noFiles (hfiles : arguments.files = []) :
      Ended outside arguments s ⟨.success, noFilesText, []⟩ s
  | abandoned {found : Except Config.Error Config} {begun : σ} {outcome : Outcome}
      (hfiles : arguments.files ≠ []) (hfound : perform s (configOf arguments) = (found, begun))
      (hsetUp : setUp (outside 0) arguments found = .error outcome) :
      Ended outside arguments s outcome begun
  | finished {found : Except Config.Error Config} {begun : σ} {config : Config}
      {documenter : Documenter} (hfiles : arguments.files ≠ [])
      (hfound : perform s (configOf arguments) = (found, begun))
      (hsetUp : setUp (outside 0) arguments found = .ok (config, documenter)) :
      Ended outside arguments s
        (finish documenter config arguments.files
          (documenter.outcomes outside begun arguments.files))
        (documenter.diskAfter outside begun arguments.files)

/-- With a documenter a run comes to all its files. -/
theorem perform_document_of_setUp [Language.Patterns] {found : Except Config.Error Config}
    {begun : σ} {config : Config} (hfiles : arguments.files ≠ [])
    (hfound : perform s (configOf arguments) = (found, begun))
    (hsetUp : setUp (outside 0) arguments found = .ok (config, documenter)) :
    perform s (document outside arguments)
      = (finish documenter config arguments.files
          (documenter.outcomes outside begun arguments.files),
        documenter.diskAfter outside begun arguments.files) := by
  rw [document_eq outside hfiles, Disk.perform_bind, hfound]
  dsimp only
  rw [hsetUp]
  dsimp only
  rw [Disk.perform_bind, perform_mapM_publish]
  rfl

/-- Without one it comes to none. -/
theorem perform_document_of_abandoned [Language.Patterns] {found : Except Config.Error Config}
    {begun : σ} {outcome : Outcome} (hfiles : arguments.files ≠ [])
    (hfound : perform s (configOf arguments) = (found, begun))
    (hsetUp : setUp (outside 0) arguments found = .error outcome) :
    perform s (document outside arguments) = (outcome, begun) := by
  rw [document_eq outside hfiles, Disk.perform_bind, hfound]
  dsimp only
  rw [hsetUp]
  rfl

/-- A run ends in one of these ways. -/
theorem ended [Language.Patterns] (outside : Nat → Outside) (arguments : Arguments) (s : σ) :
    Ended outside arguments s (perform s (document outside arguments)).1
      (perform s (document outside arguments)).2 := by
  by_cases hfiles : arguments.files = []
  · rw [document, if_pos hfiles]
    exact .noFiles hfiles
  cases hfound : perform s (configOf arguments) with
  | mk found begun =>
    cases hsetUp : setUp (outside 0) arguments found with
    | error outcome =>
      rw [perform_document_of_abandoned hfiles hfound hsetUp]
      exact .abandoned hfiles hfound hsetUp
    | ok ready =>
      rw [perform_document_of_setUp hfiles hfound hsetUp]
      exact .finished hfiles hfound hsetUp

/-- A run that comes to its files has a documenter. -/
theorem documenter?_of_setUp [Language.Patterns] {found : Except Config.Error Config}
    {begun : σ} {config : Config} (hfiles : arguments.files ≠ [])
    (hfound : perform s (configOf arguments) = (found, begun))
    (hsetUp : setUp (outside 0) arguments found = .ok (config, documenter)) :
    documenter? outside arguments s = some documenter := by
  rw [documenter?, if_neg hfiles, hfound]
  dsimp only
  rw [hsetUp]
  rfl

end Marginalia.CommandLine
