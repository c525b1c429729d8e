import Marginalia.Proofs.CommandLine.Run
import Marginalia.Proofs.Highlight.LostSentinels
import Marginalia.Proofs.Highlight.Posting

/-!
# `Marginalia.Proofs.CommandLine.Posting`: what a run sends away

What is asked of the outside for a file is what its highlighter asks, if
the file is read, and nothing otherwise (`Published.requests_of_read`,
`Published.requests_of_not_read`). So code is posted only for files that
are read, only where the settings allow it and only where the local command
is missing: `posts_iff_missing`. A run adds nothing to what its files ask
for (`posts_document`). All of this holds on any disk, lawful or not.
-/

set_option autoImplicit false

namespace Marginalia

open Disk (perform)
open Highlight (Outside Traced blob posts invocations requests invocationOf)
open Marginalia.Language (Profile)
open Segment (SentCode)

/-! ### One file -/

namespace Documenter

variable {documenter : Documenter} {outside : Outside} {path : Path} {profile : Profile}
  {source : Text} {σ : Type} [Disk (StateM σ)] {s later : σ}
  {outcome : Traced (Except Error Path)}

/-- For a file that is read the highlighter is asked once, for all of its
code. -/
theorem Published.requests_of_read (h : Published documenter outside path s outcome later)
    (hresolve : documenter.registry.resolve path = .ok profile)
    (hread : (perform s (Disk.readText path)).1 = .ok source) :
    requests outcome.events
      = requests (documenter.highlighter.run outside profile.name
          (blob profile (profile.segment source))).events := by
  have hpage := (requests_page outside source hresolve).1
  cases h with
  | unresolved hresolve' =>
    rw [hresolve] at hresolve'
    cases hresolve'
  | unread hresolve' hread' =>
    rw [hread'] at hread
    cases hread
  | undrawn hresolve' hread' =>
    rw [hread'] at hread
    cases hread
    exact hpage
  | noDirectory hresolve' hread' =>
    rw [hread'] at hread
    cases hread
    exact hpage
  | unwritten hresolve' hread' =>
    rw [hread'] at hread
    cases hread
    exact hpage
  | written hresolve' hread' =>
    rw [hread'] at hread
    cases hread
    rw [Highlight.requests_append_logged]
    exact hpage

/-- For any other file nobody is asked. -/
theorem Published.requests_of_not_read
    (h : Published documenter outside path s outcome later)
    (hunread : ∀ profile source, documenter.registry.resolve path = .ok profile →
      (perform s (Disk.readText path)).1 ≠ .ok source) :
    requests outcome.events = [] := by
  cases h with
  | unresolved hresolve => rfl
  | unread hresolve hread => rfl
  | undrawn hresolve hread => exact absurd (by rw [hread]) (hunread _ _ hresolve)
  | noDirectory hresolve hread => exact absurd (by rw [hread]) (hunread _ _ hresolve)
  | unwritten hresolve hread => exact absurd (by rw [hread]) (hunread _ _ hresolve)
  | written hresolve hread => exact absurd (by rw [hread]) (hunread _ _ hresolve)

section Settings

variable {settings : HighlighterSettings}
  (hsettings : documenter.highlighter = highlighterOf settings)
include hsettings

/-- The local command is run once for a file that is read. -/
theorem Published.invocations_of_read
    (h : Published documenter outside path s outcome later)
    (hresolve : documenter.registry.resolve path = .ok profile)
    (hread : (perform s (Disk.readText path)).1 = .ok source) :
    invocations outcome.events
      = [invocationOf settings profile.name (blob profile (profile.segment source))] := by
  rw [← Highlight.invocations_requests, h.requests_of_read hresolve hread,
    Highlight.invocations_requests, hsettings, Highlight.invocations_run_highlighterOf]

/-- What is posted for it is what the highlighter posts. -/
theorem Published.posts_of_read (h : Published documenter outside path s outcome later)
    (hresolve : documenter.registry.resolve path = .ok profile)
    (hread : (perform s (Disk.readText path)).1 = .ok source) :
    posts outcome.events
      = posts ((highlighterOf settings).run outside profile.name
          (blob profile (profile.segment source))).events := by
  rw [← Highlight.posts_requests, h.requests_of_read hresolve hread, Highlight.posts_requests,
    hsettings]

/-- If anything is posted for it, the settings allow that and the command
is missing. -/
theorem Published.missing_of_posts (h : Published documenter outside path s outcome later)
    (hresolve : documenter.registry.resolve path = .ok profile)
    (hread : (perform s (Disk.readText path)).1 = .ok source) (hposts : posts outcome.events ≠ []) :
    settings.fallback = true
      ∧ (outside.run (invocationOf settings profile.name
          (blob profile (profile.segment source)))).Missing := by
  by_contra hnot
  rw [h.posts_of_read hsettings hresolve hread] at hposts
  exact hposts (Highlight.posts_run_eq_nil outside settings _ _ hnot)

/-- Something is posted for a file exactly if the settings allow it, the
file is read and the command is missing. -/
theorem Published.posts_ne_nil_iff (h : Published documenter outside path s outcome later) :
    posts outcome.events ≠ []
      ↔ settings.fallback = true
        ∧ ∃ profile source, documenter.registry.resolve path = .ok profile
          ∧ (perform s (Disk.readText path)).1 = .ok source
          ∧ (outside.run (invocationOf settings profile.name
              (blob profile (profile.segment source)))).Missing := by
  constructor
  · intro hposts
    by_cases hread : ∃ profile source, documenter.registry.resolve path = .ok profile
        ∧ (perform s (Disk.readText path)).1 = .ok source
    · obtain ⟨profile, source, hresolve, hread⟩ := hread
      obtain ⟨hallowed, hmissing⟩ := h.missing_of_posts hsettings hresolve hread hposts
      exact ⟨hallowed, profile, source, hresolve, hread, hmissing⟩
    · have hnobody := h.requests_of_not_read
        fun profile source hresolve hsource => hread ⟨profile, source, hresolve, hsource⟩
      rw [← Highlight.posts_requests, hnobody] at hposts
      exact absurd rfl hposts
  · rintro ⟨hallowed, profile, source, hresolve, hread, hmissing⟩
    rw [h.posts_of_read hsettings hresolve hread,
      Highlight.posts_run_of_missing outside settings _ _ hallowed hmissing]
    exact List.cons_ne_nil _ _

end Settings

end Documenter

namespace CommandLine

variable {arguments : Arguments} {files : List Path} {σ : Type} [Disk (StateM σ)]

/-! ### A run -/

/-- What is said about a file posts nothing. -/
theorem posts_eventsFor (file : Path) (outcome : Traced (Except Documenter.Error Path)) :
    posts (eventsFor file outcome) = posts outcome.events := by
  rw [eventsFor]
  split
  · rfl
  · rw [Highlight.posts_append]
    exact List.append_nil _

/-- A run that comes to its files posts what they post. -/
theorem posts_finish (documenter : Documenter) (config : Config)
    {outcomes : List (Traced (Except Documenter.Error Path))}
    (hlength : outcomes.length = files.length) :
    posts (finish documenter config files outcomes).events
      = outcomes.flatMap (posts ·.events) := by
  have hfiles : posts ((files.zip outcomes).flatMap fun turn => eventsFor turn.1 turn.2)
      = outcomes.flatMap (posts ·.events) := by
    rw [posts, List.filterMap_flatMap, ← flatMap_zip hlength]
    exact List.flatMap_congr fun turn _ => posts_eventsFor turn.1 turn.2
  rw [finish_eq documenter config hlength]
  split
  · exact hfiles
  · -- The last word of a run posts nothing.
    show posts (_ ++ [.logged _]) = _
    rw [Highlight.posts_append, hfiles]
    exact List.append_nil _

/-- What a run posts. -/
theorem posts_document [Language.Patterns] (outside : Nat → Outside) (arguments : Arguments)
    (s : σ) :
    posts (perform s (run outside (.document arguments))).1.events
      = match setUp (outside 0) arguments (perform s (configOf arguments)).1 with
        | .error _ => []
        | .ok (_, documenter) =>
          (documenter.outcomes outside (perform s (configOf arguments)).2
            arguments.files).flatMap (posts ·.events) := by
  have hended := ended outside arguments s
  show posts (perform s (document outside arguments)).1.events = _
  generalize perform s (document outside arguments) = result at hended ⊢
  obtain ⟨outcome, later⟩ := result
  dsimp only at hended ⊢
  cases hended with
  | noFiles hfiles =>
    rw [hfiles]
    split
    · rfl
    · rfl
  | abandoned hfiles hfound hsetUp =>
    rw [hfound, hsetUp]
    obtain ⟨records, message, rfl, -⟩ := setUp_eq_error hsetUp
    show posts (records.map .logged ++ [.logged _]) = []
    rw [Highlight.posts_append, posts, Highlight.filterMap_map_logged fun _ => rfl]
    rfl
  | @finished found begun config documenter hfiles hfound hsetUp =>
    rw [hfound, hsetUp]
    exact posts_finish documenter config
      (documenter.length_outcomes outside begun arguments.files)

/-- The highlighter is the one that the settings ask for. -/
theorem highlighter_of_ofConfig [Language.Patterns] {config : Config} {bare : Documenter}
    (h : Documenter.ofConfig config = .ok bare) :
    bare.highlighter = Documenter.highlighterOf config.highlighter := by
  unfold Documenter.ofConfig at h
  cases hregistry : config.registry with
  | error e =>
    rw [hregistry] at h
    cases h
  | ok registry =>
    rw [hregistry] at h
    cases h
    rfl

/-- The fallback is allowed if nobody forbids it. -/
theorem fallback_override {config : Config} :
    (arguments.override config).highlighter.fallback = true
      ↔ config.highlighter.fallback = true ∧ arguments.noFallback = false := by
  show (config.highlighter.fallback && !arguments.noFallback) = true ↔ _
  rw [Bool.and_eq_true, Bool.not_eq_true']

/-- **Code leaves the machine only where it may.** Take a configuration
that gives a documenter together with the arguments, any disk, any files,
and any behaviour of the local command and of the service, which may be
another one at every turn.

- Something is posted for a file exactly if the configuration has the
  fallback and the arguments do not forbid it, the language of the file is
  known and the file read as text, and the local command is missing when it
  is run on the code of the file.
- For a file that is read the command is run once. What is posted then is
  one request, with the name of the language and the very code that the
  command was given. It is made of lines of code and dividers.
- A run posts what its files post, in order. If it does not come to its
  files, it posts nothing. -/
theorem posts_iff_missing [Language.Patterns] (arguments : Arguments) (config : Config)
    {bare : Documenter} (hbare : Documenter.ofConfig (arguments.override config) = .ok bare) :
    let documenter := bare.withSources arguments.files
    let settings := (arguments.override config).highlighter
    let code := fun (profile : Profile) (source : Text) => blob profile (profile.segment source)
    (∀ (outside : Outside) (s : σ) (file : Path),
      let events := (perform s (documenter.publish outside file)).1.events
      (posts events ≠ []
        ↔ config.highlighter.fallback = true ∧ arguments.noFallback = false
          ∧ ∃ profile source, documenter.registry.resolve file = .ok profile
            ∧ (perform s (Disk.readText file)).1 = .ok source
            ∧ (outside.run (invocationOf settings profile.name (code profile source))).Missing)
      ∧ ∀ profile source, documenter.registry.resolve file = .ok profile →
          (perform s (Disk.readText file)).1 = .ok source →
          invocations events = [invocationOf settings profile.name (code profile source)]
          ∧ (posts events ≠ [] →
              posts events = [⟨settings.url, profile.name, code profile source, settings.limit⟩])
          ∧ SentCode profile source (code profile source))
    ∧ ∀ (outside : Nat → Outside) (s : σ),
        posts (perform s (run outside (.document arguments))).1.events
          = match setUp (outside 0) arguments (perform s (configOf arguments)).1 with
            | .error _ => []
            | .ok (_, documenter) =>
              (documenter.outcomes outside (perform s (configOf arguments)).2
                arguments.files).flatMap (posts ·.events) := by
  intro documenter settings code
  have hsettings : documenter.highlighter = Documenter.highlighterOf settings := by
    show bare.highlighter = _
    exact highlighter_of_ofConfig hbare
  refine ⟨fun outside s file => ?_, fun outside s => posts_document outside arguments s⟩
  have hpublished := Documenter.published documenter outside file s
  constructor
  · rw [← and_assoc, ← fallback_override]
    exact hpublished.posts_ne_nil_iff hsettings
  · intro profile source hresolve hread
    refine ⟨hpublished.invocations_of_read hsettings hresolve hread, fun hposts => ?_,
      Segment.sentCode_blob profile source⟩
    obtain ⟨hallowed, hmissing⟩ := hpublished.missing_of_posts hsettings hresolve hread hposts
    rw [hpublished.posts_of_read hsettings hresolve hread]
    exact Highlight.posts_run_of_missing outside settings _ _ hallowed hmissing

/-- A run where no tool is installed, with a file to read. -/
theorem posts_iff_missing_withoutTool :
    let arguments : Arguments := ⟨[⟨"a.py"⟩], none, none, none, false, false⟩
    let tree : FileTree := {
      entries := [(["a.py"], .file (Utf8.encode "# one\nx = 1\n"))]
      here := [] }
    let bare : Documenter := ⟨.builtin, Documenter.highlighterOf .standard, ⟨"docs"⟩, []⟩
    let documenter := bare.withSources arguments.files
    Documenter.ofConfig (arguments.override .standard) = .ok bare
      ∧ posts (perform tree (documenter.publish .none ⟨"a.py"⟩)).1.events
        = [⟨HighlighterSettings.standard.url, "python", "x = 1\n\n\n#DIVIDER\n",
            HighlighterSettings.standard.limit⟩] := by
  intro arguments tree bare documenter
  have hbare : Documenter.ofConfig (arguments.override .standard) = .ok bare := rfl
  have hresolve : documenter.registry.resolve ⟨"a.py"⟩ = .ok Highlight.hashLanguage := by
    decide +kernel
  have hread : (perform tree (Disk.readText ⟨"a.py"⟩)).1 = .ok "# one\nx = 1\n" := by
    decide +kernel
  obtain ⟨hfiles, -⟩ := posts_iff_missing (σ := FileTree) arguments .standard hbare
  obtain ⟨hiff, hposts⟩ := hfiles .none tree ⟨"a.py"⟩
  have hsome := hiff.mpr ⟨rfl, rfl, _, _, hresolve, hread, trivial⟩
  refine ⟨hbare, ((hposts _ _ hresolve hread).2.1 hsome).trans ?_⟩
  have hblob : blob Highlight.hashLanguage (Highlight.hashLanguage.segment "# one\nx = 1\n")
      = "x = 1\n\n\n#DIVIDER\n" := by
    decide +kernel
  dsimp only
  rw [hblob]
  rfl

end CommandLine

end Marginalia
