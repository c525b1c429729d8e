import Marginalia.Proofs.CommandLine.Run

/-!
# `Marginalia.Proofs.CommandLine.Files`: every file for itself

`run_fileByFile` is the contract of a run with its files. Without files
there is nothing to do, and without a documenter no file is looked at. With
one, publishing is asked for once for each file. What the run prints, its
exit status and its last error are then functions of what the files came
to, and `FileByFile` says which ones.

The files share one disk. One that fails leaves it to the files behind it
as it was, unless what failed was the writing.
-/

set_option autoImplicit false

namespace Marginalia.CommandLine

open Disk (perform)
open Highlight (Outside Traced)

variable {outcomes : List (Traced (Except Documenter.Error Path))}

theorem failed_eq_false_iff {found : Traced (Except Documenter.Error Path)} :
    failed found = false ↔ ∃ target, found.result = .ok target := by
  unfold failed
  cases found.result with
  | ok target => simp
  | error e => simp

/-- No file is counted exactly if they all have a page. -/
theorem countP_failed_eq_zero_iff :
    outcomes.countP failed = 0 ↔ ∀ found ∈ outcomes, ∃ target, found.result = .ok target := by
  simp only [List.countP_eq_zero, Bool.not_eq_true, failed_eq_false_iff]

/-- Only success is told by the exit status 0. -/
theorem Verdict.eq_success_of_code {verdict : Verdict} (h : verdict.code = 0) :
    verdict = .success := by
  cases verdict with
  | success => rfl
  | failure => cases h
  | misuse => cases h

variable {σ : Type} [Disk (StateM σ)]

/-- What a run leaves that came to its files: its outcome and the disk, in
terms of what each file came to at its turn. -/
structure FileByFile (documenter : Documenter) (outside : Nat → Outside) (s : σ)
    (files : List Path) (outcomes : List (Traced (Except Documenter.Error Path)))
    (outcome : Outcome) (later : σ) : Prop where
  length : outcomes.length = files.length
  turn : ∀ front file behind, files = front ++ file :: behind →
    outcomes[front.length]? = some (documenter.outcomeAfter outside s front file)
  later : later = documenter.diskAfter outside s files
  isolated : ∀ front file behind e, files = front ++ file :: behind →
    (documenter.outcomeAfter outside s front file).result = .error e →
    (∀ refused reason, e ≠ .unwritable refused reason) →
    documenter.diskAfter outside s (front ++ [file]) = documenter.diskAfter outside s front
  printed : outcome.printed = outcomes.flatMap printedFor
    ++ if outcomes.countP failed = 0 then closing documenter else []
  succeeds : outcome.verdict.code = 0 ↔ ∀ found ∈ outcomes, ∃ target, found.result = .ok target
  counted : outcome.verdict.code ≠ 0 → outcome.verdict.code = 1
    ∧ ∃ before, outcome.events = before ++ [.logged ⟨.error, "phocco",
        Text.ofNat (outcomes.countP failed) ++ " of " ++ Text.ofNat files.length
          ++ " files could not be documented", []⟩]

theorem fileByFile_finish [LawfulDisk σ] (documenter : Documenter) (outside : Nat → Outside)
    (s : σ) (config : Config) (files : List Path) :
    FileByFile documenter outside s files (documenter.outcomes outside s files)
      (finish documenter config files (documenter.outcomes outside s files))
      (documenter.diskAfter outside s files) := by
  have hlength := documenter.length_outcomes outside s files
  have hturn : ∀ front file behind, files = front ++ file :: behind →
      (documenter.outcomes outside s files)[front.length]?
        = some (documenter.outcomeAfter outside s front file) := by
    rintro front file behind rfl
    exact documenter.getElem?_outcomes outside s front file behind
  have hisolated : ∀ front file behind e, files = front ++ file :: behind →
      (documenter.outcomeAfter outside s front file).result = .error e →
      (∀ refused reason, e ≠ .unwritable refused reason) →
      documenter.diskAfter outside s (front ++ [file]) = documenter.diskAfter outside s front := by
    intro front file behind e _ herror hwrite
    exact (documenter.published_after outside s front file).unchanged herror hwrite
  rw [finish_eq documenter config hlength]
  generalize documenter.outcomes outside s files = outcomes at hlength hturn
  by_cases hnone : outcomes.countP failed = 0
  · simp only [if_pos hnone]
    have hall := countP_failed_eq_zero_iff.mp hnone
    exact ⟨hlength, hturn, rfl, hisolated, by rw [if_pos hnone], iff_of_true rfl hall,
      fun hcode => absurd rfl hcode⟩
  · simp only [if_neg hnone]
    have hsome := fun hall => hnone (countP_failed_eq_zero_iff.mpr hall)
    exact ⟨hlength, hturn, rfl, hisolated, by rw [if_neg hnone, List.append_nil],
      iff_of_false Nat.one_ne_zero hsome, fun _ => ⟨rfl, _, (List.cons_append).symm⟩⟩

/-- **Every file for itself.** For every command line, every state of a
lawful disk, and every outside at every turn:

- Without files the run is no program at all but its outcome, and the exit
  status is 0. On no disk is anything read or written.
- With files a run looks for its configuration first, on every disk. If
  that cannot be loaded or gives no documenter, that was all. Otherwise
  each file is published once, in order and whatever the others came to.
- Where nothing can be set up the exit status is 1. The disk is as before,
  and nothing is printed or asked of the outside.
- Otherwise the files decide, each on the disk that the ones in front of it
  have left. A failure changes nothing for the files behind, unless it was
  in writing. One line is printed for each page, and a last one if there
  was no failure. The exit status is 0 exactly if there was none, and if
  there were some the last error counts them. -/
theorem run_fileByFile [LawfulDisk σ] [Language.Patterns] (outside : Nat → Outside)
    (arguments : Arguments) (s : σ) :
    let outcome := (perform s (run outside (.document arguments))).1
    let later := (perform s (run outside (.document arguments))).2
    if arguments.files = [] then
      outcome.verdict.code = 0 ∧ later = s
        ∧ ∀ (m : Type → Type) [Monad m] [Disk m],
          run outside (.document arguments) = (pure outcome : m Outcome)
    else
      (∀ (m : Type → Type) [Monad m] [LawfulMonad m] [Disk m],
        (run outside (.document arguments) : m Outcome) = do
          match setUp (outside 0) arguments (← configOf arguments) with
          | .error abandoned => return abandoned
          | .ok (config, documenter) =>
            return finish documenter config arguments.files
              (← arguments.files.zipIdx.mapM fun turn =>
                documenter.publish (outside turn.2) turn.1))
      ∧ match setUp (outside 0) arguments (perform s (configOf arguments)).1 with
        | .error _ =>
          outcome.verdict.code = 1 ∧ later = s ∧ outcome.printed = []
            ∧ Highlight.requests outcome.events = []
        | .ok (_, documenter) =>
          FileByFile documenter outside s arguments.files
            (documenter.outcomes outside s arguments.files) outcome later := by
  have hended : Ended outside arguments s (perform s (run outside (.document arguments))).1
      (perform s (run outside (.document arguments))).2 := ended outside arguments s
  intro outcome later
  change Ended outside arguments s outcome later at hended
  clear_value outcome later
  have hbegun := state_configOf arguments s
  cases hended with
  | noFiles hfiles =>
    rw [if_pos hfiles]
    refine ⟨rfl, rfl, fun m _ _ => ?_⟩
    show document outside arguments = _
    rw [document, if_pos hfiles]
  | abandoned hfiles hfound hsetUp =>
    rw [hfound] at hbegun
    rw [if_neg hfiles, hfound, hsetUp]
    refine ⟨fun m _ _ _ => document_eq outside hfiles, ?_⟩
    obtain ⟨records, message, rfl, -⟩ := setUp_eq_error hsetUp
    refine ⟨rfl, hbegun, rfl, ?_⟩
    -- There is nothing but records.
    show Highlight.requests (records.map .logged ++ [.logged (stopped message)]) = []
    rw [Highlight.requests_append_logged]
    exact List.filter_eq_nil_iff.mpr fun event hevent => by
      obtain ⟨record, -, rfl⟩ := List.mem_map.mp hevent
      exact Bool.false_ne_true
  | @finished found begun config documenter hfiles hfound hsetUp =>
    rw [hfound] at hbegun
    dsimp only at hbegun
    subst hbegun
    rw [if_neg hfiles, hfound, hsetUp]
    exact ⟨fun m _ _ _ => document_eq outside hfiles,
      fileByFile_finish documenter outside begun config arguments.files⟩

end Marginalia.CommandLine
