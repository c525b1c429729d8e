import Marginalia.Documenter.Basic
import Marginalia.Proofs.Documenter.Publish
import Marginalia.Proofs.Segment.Sections

/-!
# `Marginalia.Proofs.Highlight.Posting`: when code is sent away

Of all that is done for a file two things are about its code: a local
command is run on it, and it may be posted to the service. `invocations`
and `posts` read them off the events.

`Run.Missing` says when a local command counts as missing, without the
search through its complaint (`reportsMissing_iff`). The highlighter that
settings ask for posts code exactly if they allow it and the command is
missing, and then it posts once what the command had been given
(`posts_run_highlighterOf`). What it is given is made of lines of code and
sentinels (`sentCode_blob`).
-/

set_option autoImplicit false

namespace Marginalia

open Marginalia.Language (Profile)

namespace Text

/-- A text is mentioned if it stands somewhere with something in front of
it and something behind it. -/
theorem mentions_iff {part text : Text} :
    mentions part text = true ↔ ∃ front back, text = front ++ part ++ back := by
  induction text with
  | nil =>
    constructor
    · intro h
      exact ⟨[], [], by rw [List.isEmpty_iff.mp h]; rfl⟩
    · rintro ⟨front, back, h⟩
      have hpart : part = [] := by
        simp only [List.append_assoc] at h
        exact (List.append_eq_nil_iff.mp (List.append_eq_nil_iff.mp h.symm).2).1
      rw [hpart]
      rfl
  | cons c text ih =>
    rw [mentions, Bool.or_eq_true, begins_iff, ih]
    constructor
    · rintro (⟨rest, h⟩ | ⟨front, back, rfl⟩)
      · exact ⟨[], rest, h⟩
      · exact ⟨c :: front, back, rfl⟩
    · rintro ⟨front, back, h⟩
      -- The part begins here or further behind.
      cases front with
      | nil => exact .inl ⟨back, h⟩
      | cons d front =>
        obtain ⟨rfl, rfl⟩ := List.cons.inj h
        exact .inr ⟨front, back, rfl⟩

end Text

namespace Highlight

/-! ### Events -/

/-- What is posted to the service by an event. -/
def Event.post? : Event → Option Request
  | .posted request => some request
  | _ => none

/-- What is given to a local command by an event. -/
def Event.invocation? : Event → Option Invocation
  | .ran invocation => some invocation
  | _ => none

/-- What was posted to the service. -/
def posts (events : List Event) : List Request :=
  events.filterMap Event.post?

/-- What was given to local commands. -/
def invocations (events : List Event) : List Invocation :=
  events.filterMap Event.invocation?

theorem posts_append (before behind : List Event) :
    posts (before ++ behind) = posts before ++ posts behind :=
  List.filterMap_append

theorem invocations_append (before behind : List Event) :
    invocations (before ++ behind) = invocations before ++ invocations behind :=
  List.filterMap_append

section Selection

variable {α : Type} {f : Event → Option α} (h : ∀ record, f (.logged record) = none)
include h

/-- What is not in a record is in a request. -/
theorem filterMap_requests (events : List Event) :
    (requests events).filterMap f = events.filterMap f := by
  rw [requests, List.filterMap_filter]
  refine List.filterMap_congr fun event _ => ?_
  cases event with
  | logged record => exact (h record).symm
  | ran invocation => rfl
  | posted request => rfl
  | asked label lexer code => rfl

theorem filterMap_map_logged (records : List Log.Record) :
    (records.map .logged).filterMap f = [] := by
  rw [List.filterMap_eq_nil_iff]
  intro event hevent
  obtain ⟨record, -, rfl⟩ := List.mem_map.mp hevent
  exact h record

end Selection

theorem posts_requests (events : List Event) : posts (requests events) = posts events :=
  filterMap_requests (fun _ => rfl) events

theorem invocations_requests (events : List Event) :
    invocations (requests events) = invocations events :=
  filterMap_requests (fun _ => rfl) events

/-! ### Missing commands -/

/-- A complaint has one of the phrases that say that the tool is missing,
in upper or lower case. -/
def SaysMissing (complaint : Text) : Prop :=
  ∃ phrase ∈ missingPhrases, ∃ front said back,
    complaint = front ++ said ++ back ∧ said.map Char.toLower = phrase

/-- A run was that of a missing tool: the system did not find it, or it
ended without success, with the exit code for it or with a complaint that
says so. -/
def Run.Missing : Run → Prop
  | .notFound => True
  | .refused _ => False
  | .overdue => False
  | .ended status _ complaint _ =>
    status ≠ .exited 0
      ∧ (status = .exited 127 ∨ SaysMissing (Utf8.decodeLossy complaint))

theorem reportsMissing_iff {complaint : Text} :
    reportsMissing complaint = true ↔ SaysMissing complaint := by
  unfold reportsMissing SaysMissing
  rw [List.any_eq_true]
  refine exists_congr fun phrase => and_congr_right fun _ => ?_
  rw [Text.mentions_iff]
  constructor
  · rintro ⟨front, back, h⟩
    -- What is lowered piece by piece was in pieces before.
    obtain ⟨both, back', rfl, hboth, -⟩ := List.map_eq_append_iff.mp h
    obtain ⟨front', said, rfl, -, hsaid⟩ := List.map_eq_append_iff.mp hboth
    exact ⟨front', said, back', rfl, hsaid⟩
  · rintro ⟨front, said, back, rfl, hsaid⟩
    refine ⟨front.map Char.toLower, back.map Char.toLower, ?_⟩
    rw [List.map_append, List.map_append, hsaid]

/-- A missing tool is not available. -/
theorem Run.result_of_missing {run : Run} (h : run.Missing) (tool : Text) (limit : Duration) :
    run.result tool limit = .error (.unavailable tool) := by
  cases run with
  | notFound => rfl
  | refused reason => exact h.elim
  | overdue => exact h.elim
  | ended status output complaint unread =>
    have hstatus : status.success = false := decide_eq_false h.1
    have hmissing : endedMissing status (Utf8.decodeLossy complaint) = true := by
      rw [endedMissing, Bool.or_eq_true, decide_eq_true_iff, reportsMissing_iff]
      exact h.2
    simp only [result, hstatus, hmissing, Bool.false_eq_true, if_false, if_true]

/-- Any other run has another result. -/
theorem Run.result_ne_unavailable {run : Run} (h : ¬ run.Missing) (tool : Text)
    (limit : Duration) (name : Text) : run.result tool limit ≠ .error (.unavailable name) := by
  cases run with
  | notFound => exact absurd trivial h
  | refused reason => exact fun heq => by cases heq
  | overdue => exact fun heq => by cases heq
  | ended status output complaint unread =>
    unfold result
    dsimp only
    split
    · split
      · exact fun heq => by cases heq
      · exact fun heq => by cases heq
    · rename_i hstatus
      have hfailed : status ≠ .exited 0 := fun heq => hstatus (decide_eq_true heq)
      have hmissing : endedMissing status (Utf8.decodeLossy complaint) = false := by
        rw [Bool.eq_false_iff, ne_eq, endedMissing, Bool.or_eq_true, decide_eq_true_iff,
          reportsMissing_iff]
        exact fun hsaid => h ⟨hfailed, hsaid⟩
      rw [hmissing]
      exact fun heq => by cases heq

/-! ### Highlighters -/

/-- The local command that settings ask for, on some code. -/
def invocationOf (settings : HighlighterSettings) (lexer code : Text) : Invocation :=
  ⟨settings.command, ["-l", lexer, "-f", "html"], code, settings.limit⟩

/-- Running a command posts nothing. -/
theorem posts_runCommand (outside : Outside) (tool : Text) (limit : Duration)
    (lexer code : Text) :
    posts (runCommand outside tool limit lexer code).events = [] :=
  filterMap_map_logged (fun _ => rfl) _

theorem invocations_runCommand (outside : Outside) (settings : HighlighterSettings)
    (lexer code : Text) :
    invocations (runCommand outside settings.command settings.limit lexer code).events
      = [invocationOf settings lexer code] := by
  have hrecords := filterMap_map_logged (f := Event.invocation?) (fun _ => rfl)
    ((outside.run (invocationOf settings lexer code)).records settings.command lexer)
  exact congrArg (List.cons _) hrecords

/-- Where the command is missing the fallback goes on. -/
theorem run_withFallback_of_missing (outside : Outside) (settings : HighlighterSettings)
    (fallback : Highlighter) (lexer code : Text)
    (h : (outside.run (invocationOf settings lexer code)).Missing) :
    ((Highlighter.withFallback (.command settings.command settings.limit) fallback).run outside
        lexer code).events
      = (runCommand outside settings.command settings.limit lexer code).events
        ++ [.logged (Highlighter.usingFallback settings.command fallback.name)]
        ++ (fallback.run outside lexer code).events := by
  have hresult : (runCommand outside settings.command settings.limit lexer code).result
      = .error (.unavailable settings.command) :=
    Run.result_of_missing h settings.command settings.limit
  rw [Highlighter.run, Highlighter.run]
  rw [hresult]
  rfl

/-- Where it is not, nothing is asked after it. -/
theorem requests_withFallback_of_not_missing (outside : Outside)
    (settings : HighlighterSettings) (fallback : Highlighter) (lexer code : Text)
    (h : ¬ (outside.run (invocationOf settings lexer code)).Missing) :
    requests ((Highlighter.withFallback (.command settings.command settings.limit) fallback).run
        outside lexer code).events
      = requests (runCommand outside settings.command settings.limit lexer code).events := by
  have hresult : ∀ tool, (runCommand outside settings.command settings.limit lexer code).result
      ≠ .error (.unavailable tool) :=
    fun tool => Run.result_ne_unavailable h settings.command settings.limit tool
  rw [Highlighter.run, Highlighter.run]
  split
  · rename_i tool htool
    exact absurd htool (hresult tool)
  · rfl
  · rw [requests_append_logged]

variable (outside : Outside) (settings : HighlighterSettings) (lexer code : Text)

/-- The highlighter that settings ask for runs the local command once. -/
theorem invocations_run_highlighterOf :
    invocations ((Documenter.highlighterOf settings).run outside lexer code).events
      = [invocationOf settings lexer code] := by
  rw [Documenter.highlighterOf]
  split
  · by_cases hmissing : (outside.run (invocationOf settings lexer code)).Missing
    · rw [run_withFallback_of_missing outside settings _ lexer code hmissing,
        invocations_append, invocations_append, invocations_runCommand]
      rfl
    · rw [← invocations_requests,
        requests_withFallback_of_not_missing outside settings _ lexer code hmissing,
        invocations_requests, invocations_runCommand]
  · exact invocations_runCommand outside settings lexer code

/-- It posts code if the settings allow it and the command is missing. -/
theorem posts_run_of_missing (hallowed : settings.fallback = true)
    (hmissing : (outside.run (invocationOf settings lexer code)).Missing) :
    posts ((Documenter.highlighterOf settings).run outside lexer code).events
      = [⟨settings.url, lexer, code, settings.limit⟩] := by
  rw [Documenter.highlighterOf, if_pos hallowed,
    run_withFallback_of_missing outside settings _ lexer code hmissing, posts_append,
    posts_append, posts_runCommand]
  rfl

/-- It posts nothing otherwise. -/
theorem posts_run_eq_nil
    (h : ¬ (settings.fallback = true
      ∧ (outside.run (invocationOf settings lexer code)).Missing)) :
    posts ((Documenter.highlighterOf settings).run outside lexer code).events = [] := by
  rw [Documenter.highlighterOf]
  split
  · rename_i hallowed
    have hmissing := fun hmissing => h ⟨hallowed, hmissing⟩
    rw [← posts_requests,
      requests_withFallback_of_not_missing outside settings _ lexer code hmissing,
      posts_requests, posts_runCommand]
  · exact posts_runCommand outside _ _ lexer code

end Highlight

/-! ### The code that is given away -/

namespace Segment

/-- A text is made of the lines of code of a source, in groups, and a
divider behind each group. -/
def SentCode (profile : Profile) (source text : Text) : Prop :=
  ∃ groups : List (List Text),
    groups.flatten = (sourceLines source).filter (!isDoc profile ·)
      ∧ text = groups.flatMap fun group => Text.unlines group ++ profile.dividerToken

/-- The blob of a source is. -/
theorem sentCode_blob (profile : Profile) (source : Text) :
    SentCode profile source (Highlight.blob profile (profile.segment source)) := by
  have hpartition := isPartition_stretches (isDoc profile) (sourceLines source)
  refine ⟨(stretches (isDoc profile) (sourceLines source)).map Stretch.code, ?_, ?_⟩
  · rw [← List.flatMap_def, hpartition.flatMap_code]
  · have hcodes := map_code_segment profile source
    calc Highlight.blob profile (profile.segment source)
        = ((profile.segment source).map Section.code).flatMap (· ++ profile.dividerToken) := by
          rw [List.flatMap_map]
          rfl
      _ = ((stretches (isDoc profile) (sourceLines source)).map Stretch.code).flatMap
            fun group => Text.unlines group ++ profile.dividerToken := by
          rw [hcodes, List.flatMap_map, List.flatMap_map]

end Segment

end Marginalia
