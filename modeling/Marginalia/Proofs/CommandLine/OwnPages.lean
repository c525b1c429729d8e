import Mathlib.Data.List.Nodup
import Marginalia.Proofs.Documenter.Confined
import Marginalia.Proofs.CommandLine.Run
import Marginalia.Proofs.Highlight.LostSentinels

/-!
# `Marginalia.Proofs.CommandLine.OwnPages`: whose page is in a file

A run says of every source that has a page which file the page went to.
`generated_mem_tallyOf` reads these records: a source is reported with
a file exactly if that is what came of it at its turn.

The pages of two sources may be sent to one place, as a page is called
after the name of its source without directory and extension.
`document_pages` says what is there in the end: the page of the last of
them, unless writing that one failed. So a source keeps its page where no
later page is sent to the same place, and `pageOverwritten` is a run where
it does not.
-/

set_option autoImplicit false

namespace Marginalia

open Disk (perform)
open Highlight (Event Highlighter Outside Traced)
open Documenter (HoldsPage LastSent Published Sent generated pageName)

/-! ### Records of pages -/

/-- What is noted about a tool is noted for the part that runs tools. -/
theorem Highlight.source_of_mem_runCommand {outside : Outside} {tool lexer code : Text}
    {limit : Duration} {record : Log.Record}
    (h : .logged record ∈ (runCommand outside tool limit lexer code).events) :
    record.source = commandSource := by
  rw [runCommand] at h
  rcases List.mem_cons.mp h with h | h
  · cases h
  · obtain ⟨found, hfound, heq⟩ := List.mem_map.mp h
    cases heq
    revert hfound
    -- An overdue tool is noted twice, and one that never ran not at all.
    cases outside.run ⟨tool, ["-l", lexer, "-f", "html"], code, limit⟩ with
    | notFound => exact fun hmem => absurd hmem List.not_mem_nil
    | refused reason => exact fun hmem => absurd hmem List.not_mem_nil
    | overdue =>
      intro hmem
      rcases List.mem_cons.mp hmem with rfl | hmem
      · rfl
      · rw [List.mem_singleton.mp hmem]
    | ended status output complaint unread =>
      intro hmem
      rw [List.mem_singleton.mp hmem]
      rfl

/-- Highlighters do not speak for the part that documents files. -/
theorem Highlight.source_ne_of_mem_run {highlighter : Highlighter} {outside : Outside}
    {lexer code : Text} {record : Log.Record}
    (h : .logged record ∈ (highlighter.run outside lexer code).events) :
    record.source ≠ Documenter.recordSource := by
  induction highlighter with
  | command tool limit =>
    rw [Highlighter.run] at h
    rw [source_of_mem_runCommand h]
    decide
  | service url limit =>
    rw [Highlighter.run, askService] at h
    rcases List.mem_cons.mp h with h | h
    · cases h
      show serviceSource ≠ Documenter.recordSource
      decide
    · cases List.mem_singleton.mp h
  | given name label answer => cases List.mem_singleton.mp h
  | withFallback primary fallback ihPrimary ihFallback =>
    rw [Highlighter.run] at h
    -- The notice of a switch stands between the records of the two highlighters.
    split at h
    · rcases List.mem_append.mp h with h | h
      · rcases List.mem_append.mp h with h | h
        · exact ihPrimary h
        · cases List.mem_singleton.mp h
          show fallbackSource ≠ Documenter.recordSource
          decide
      · exact ihFallback h
    · exact ihPrimary h
    · rcases List.mem_append.mp h with h | h
      · exact ihPrimary h
      · cases List.mem_singleton.mp h
        show fallbackSource ≠ Documenter.recordSource
        decide

namespace Documenter

variable {documenter : Documenter} {outside : Outside} {path file target : Path}
  {σ : Type} [Disk (StateM σ)] {s later : σ} {outcome : Traced (Except Error Path)}

/-- Laying out a page is no report of it. -/
theorem generated_not_mem_page {profile : Language.Profile} {source : Text}
    (h : documenter.registry.resolve path = .ok profile) :
    .logged (generated file target) ∉ (documenter.page outside path source).events := by
  rw [events_page h]
  intro hmem
  rcases List.mem_cons.mp hmem with heq | hmem
  · have hmessage : ("generated" : Text) = "segmented" :=
      congrArg Log.Record.message (Event.logged.inj heq)
    exact absurd hmessage (by decide)
  rcases List.mem_cons.mp hmem with heq | hmem
  · have hsource : recordSource = Highlight.sectionsSource :=
      congrArg Log.Record.source (Event.logged.inj heq)
    exact absurd hsource (by decide)
  · exact Highlight.source_ne_of_mem_run hmem rfl

/-- What is said at another level is no report. -/
theorem generated_not_mem_singleton {record : Log.Record} (h : record.level ≠ .info) :
    Event.logged (generated file target) ∉ [.logged record] := by
  intro hmem
  have heq := Event.logged.inj (List.mem_singleton.mp hmem)
  exact h (congrArg Log.Record.level heq).symm

/-- A report names its file and the path of its page. -/
theorem generated_inj {file' target' : Path} (h : generated file target = generated file' target') :
    file = file' ∧ target = target' := by
  obtain ⟨file⟩ := file
  obtain ⟨target⟩ := target
  obtain ⟨file'⟩ := file'
  obtain ⟨target'⟩ := target'
  have hvalues := congrArg Log.Record.values h
  simp only [generated, List.cons.injEq, Prod.mk.injEq, Log.Value.bare.injEq, true_and,
    and_true] at hvalues
  exact ⟨congrArg Path.mk hvalues.1, congrArg Path.mk hvalues.2⟩

/-- A file is reported exactly if its page has been written. -/
theorem Published.generated_mem_iff (h : Published documenter outside path s outcome later) :
    .logged (generated file target) ∈ outcome.events
      ↔ file = path ∧ outcome.result = .ok target := by
  cases h with
  | unresolved hresolve => exact iff_of_false List.not_mem_nil (by rintro ⟨-, ⟨⟩⟩)
  | unread hresolve hread => exact iff_of_false List.not_mem_nil (by rintro ⟨-, ⟨⟩⟩)
  | undrawn hresolve hread hpage =>
    exact iff_of_false (generated_not_mem_page hresolve) (by rintro ⟨-, ⟨⟩⟩)
  | noDirectory hresolve hread hpage hmake =>
    exact iff_of_false (generated_not_mem_page hresolve) (by rintro ⟨-, ⟨⟩⟩)
  | unwritten hresolve hread hpage hmake hwrite =>
    exact iff_of_false (generated_not_mem_page hresolve) (by rintro ⟨-, ⟨⟩⟩)
  | written hresolve hread hpage hmake hwrite =>
    rw [List.mem_append, List.mem_singleton, or_iff_right (generated_not_mem_page hresolve)]
    constructor
    · intro heq
      obtain ⟨rfl, rfl⟩ := generated_inj (Event.logged.inj heq)
      exact ⟨rfl, rfl⟩
    · rintro ⟨rfl, ⟨⟩⟩
      rfl

end Documenter

namespace CommandLine

variable {documenter : Documenter} {arguments : Arguments} {file target : Path}
  {files : List Path} {σ : Type} [Disk (StateM σ)]

/-! ### The files of a run -/

theorem generated_not_mem_stopped (message : Text) :
    .logged (generated file target) ∉ [Event.logged (stopped message)] :=
  Documenter.generated_not_mem_singleton Log.Level.noConfusion

theorem generated_not_mem_loaded (config : Config) :
    .logged (generated file target) ∉ [Event.logged (loaded config)] :=
  Documenter.generated_not_mem_singleton Log.Level.noConfusion

/-- What is done for a file reports it exactly if its page has been
written. -/
theorem generated_mem_eventsFor {outside : Outside} {path : Path} {s later : σ}
    {outcome : Traced (Except Documenter.Error Path)}
    (h : Published documenter outside path s outcome later) :
    .logged (generated file target) ∈ eventsFor path outcome
      ↔ file = path ∧ outcome.result = .ok target := by
  rw [← h.generated_mem_iff, eventsFor]
  split
  · exact Iff.rfl
  · rename_i e herror
    have hlevel : (undocumented path e).level ≠ .info := Log.Level.noConfusion
    rw [List.mem_append, or_iff_left (Documenter.generated_not_mem_singleton hlevel)]

/-- What is reported in a run is what has been written at some turn. -/
theorem generated_mem_tallyOf (documenter : Documenter) (outside : Nat → Outside) (s : σ)
    (files : List Path) :
    .logged (generated file target)
        ∈ (tallyOf (files.zip (documenter.outcomes outside s files))).events
      ↔ ∃ front behind, files = front ++ file :: behind
        ∧ (documenter.outcomeAfter outside s front file).result = .ok target := by
  rw [tallyOf_eq, List.mem_flatMap]
  constructor
  · rintro ⟨⟨path, outcome⟩, hturn, hmem⟩
    obtain ⟨front, behind, hsplit, rfl⟩ := Documenter.mem_zip_outcomes_iff.mp hturn
    have hpublished := Documenter.published_after documenter outside s front path
    obtain ⟨rfl, hresult⟩ := (generated_mem_eventsFor hpublished).mp hmem
    exact ⟨front, behind, hsplit, hresult⟩
  · rintro ⟨front, behind, hsplit, hresult⟩
    refine ⟨⟨file, _⟩, Documenter.mem_zip_outcomes_iff.mpr ⟨front, behind, hsplit, rfl⟩, ?_⟩
    have hpublished := Documenter.published_after documenter outside s front file
    exact (generated_mem_eventsFor hpublished).mpr ⟨rfl, hresult⟩

/-- The last word is no report. -/
theorem generated_mem_conclude {tally : Tally} :
    .logged (generated file target) ∈ (conclude documenter files tally).events
      ↔ .logged (generated file target) ∈ tally.events := by
  rw [conclude]
  split
  · exact Iff.rfl
  · rw [List.mem_append, or_iff_left (generated_not_mem_stopped _)]

/-- The first and the last record of a run are about no file. -/
theorem generated_mem_finish (config : Config)
    {outcomes : List (Traced (Except Documenter.Error Path))} :
    .logged (generated file target) ∈ (finish documenter config files outcomes).events
      ↔ .logged (generated file target) ∈ (tallyOf (files.zip outcomes)).events := by
  show _ ∈ [Event.logged (loaded config)] ++ (conclude _ _ _).events ↔ _
  rw [List.mem_append, or_iff_right (generated_not_mem_loaded config), generated_mem_conclude]

/-! ### The run -/

/-- A run that is abandoned reports nothing. -/
theorem generated_not_mem_abandoned [Language.Patterns] {outside : Outside}
    {found : Except Config.Error Config} {outcome : Outcome}
    (h : setUp outside arguments found = .error outcome) :
    .logged (generated file target) ∉ outcome.events := by
  obtain ⟨records, message, rfl, hrecords⟩ := setUp_eq_error h
  intro hmem
  rcases List.mem_append.mp hmem with hmem | hmem
  · obtain ⟨record, hrecord, heq⟩ := List.mem_map.mp hmem
    obtain ⟨config, rfl⟩ := hrecords record hrecord
    exact generated_not_mem_loaded config (List.mem_singleton.mpr heq.symm)
  · exact generated_not_mem_stopped message hmem

/-- A run that does not come to its files reports nothing and leaves the
disk alone. One that does publishes them all in their order. -/
theorem perform_document [LawfulDisk σ] [Language.Patterns] (outside : Nat → Outside)
    (arguments : Arguments) (s : σ) :
    let run := perform s (document outside arguments)
    (documenter? outside arguments s = none →
        run.2 = s ∧ ∀ file target, .logged (generated file target) ∉ run.1.events)
      ∧ ∀ documenter, documenter? outside arguments s = some documenter →
        run.2 = documenter.diskAfter outside s arguments.files
          ∧ ∀ file target, .logged (generated file target) ∈ run.1.events
            ↔ ∃ front behind, arguments.files = front ++ file :: behind
              ∧ (documenter.outcomeAfter outside s front file).result = .ok target := by
  intro run
  have hended : Ended outside arguments s run.1 run.2 := ended outside arguments s
  have hbegun := state_configOf arguments s
  clear_value run
  obtain ⟨outcome, later⟩ := run
  dsimp only at hended ⊢
  cases hended with
  | noFiles hfiles =>
    rw [documenter?, if_pos hfiles]
    exact ⟨fun _ => ⟨rfl, fun _ _ => List.not_mem_nil⟩, by rintro _ ⟨⟩⟩
  | abandoned hfiles hfound hsetUp =>
    rw [hfound] at hbegun
    rw [documenter?, if_neg hfiles, hfound, hsetUp]
    exact ⟨fun _ => ⟨hbegun, fun _ _ => generated_not_mem_abandoned hsetUp⟩, by rintro _ ⟨⟩⟩
  | finished hfiles hfound hsetUp =>
    rw [documenter?_of_setUp hfiles hfound hsetUp]
    rw [hfound] at hbegun
    obtain rfl := hbegun
    refine ⟨by rintro ⟨⟩, ?_⟩
    rintro _ ⟨⟩
    refine ⟨rfl, fun file target => ?_⟩
    rw [generated_mem_finish, generated_mem_tallyOf]

/-- **Who has the page in the end.** Take any run on a lawful disk, and a
file that is reported with an output.

- The output is where the pages of sources of that name go.
- Of the turns that send their page to the place of the output, under
  whatever path, there is a last one. If it is reported, the output has its
  page in the end.
- There is a turn at which the file was reported. If behind such a turn no
  page is sent to that place, the output has the page of that turn. -/
theorem document_pages [LawfulDisk σ] [Language.Patterns] (outside : Nat → Outside)
    (arguments : Arguments) (s : σ) :
    let run := perform s (run outside (.document arguments))
    ∀ file target, .logged (generated file target) ∈ run.1.events →
      ∃ documenter, documenter? outside arguments s = some documenter
        ∧ target = Page.location documenter.output file
        ∧ (∃ before owner sent rest,
            LastSent documenter outside s arguments.files target before owner sent rest
            ∧ ((documenter.outcomeAfter outside s before owner).result = .ok sent →
                HoldsPage documenter outside s run.2 before owner target))
        ∧ (∃ front behind, arguments.files = front ++ file :: behind
            ∧ (documenter.outcomeAfter outside s front file).result = .ok target)
        ∧ ∀ front behind, arguments.files = front ++ file :: behind →
            (documenter.outcomeAfter outside s front file).result = .ok target →
            (∀ between other rest sent, behind = between ++ other :: rest →
              Sent documenter other sent
                (documenter.outcomeAfter outside s (front ++ file :: between) other) →
              ¬Disk.SamePlace run.2 sent target) →
            HoldsPage documenter outside s run.2 front file target := by
  intro run file target hreported
  have hperformed := perform_document outside arguments s
  have hrun : run = perform s (document outside arguments) := rfl
  clear_value run
  rw [← hrun] at hperformed
  cases hdocumenter : documenter? outside arguments s with
  | none => exact absurd hreported ((hperformed.1 hdocumenter).2 file target)
  | some documenter =>
    obtain ⟨hlater, hreports⟩ := hperformed.2 documenter hdocumenter
    obtain ⟨front, behind, hsplit, hresult⟩ := (hreports file target).mp hreported
    have hturn := Documenter.published_after documenter outside s front file
    have hsent := hturn.sent_of_ok hresult
    rw [hlater]
    refine ⟨documenter, rfl, hsent.1, ?_, ⟨front, behind, hsplit, hresult⟩, ?_⟩
    · obtain ⟨before, owner, sent, rest, hlast⟩ := Documenter.exists_lastSent hsplit hsent
        (Documenter.samePlace_of_ok hsplit hresult)
      exact ⟨before, owner, sent, rest, hlast, hlast.holdsPage⟩
    · intro front behind hsplit hresult halone
      exact (Documenter.lastSent_of_ok hsplit hresult halone).holdsPage hresult

/-! ### Two directories with files of the same name -/

/-- A tool that marks the sentinel of a language with hash comments and
leaves all other lines as they are. -/
def markingTool : Outside where
  run invocation :=
    let body := Text.joinWith ['\n'] ((Text.lines invocation.input).map mark)
    .ended (.exited 0)
      (Utf8.encode (Highlight.codeOpen ++ body ++ Highlight.codeClose ++ ['\n'])) [] none
  post _ := .unreachable
where
  /-- The markup of a line. -/
  mark (line : Text) : Text :=
    if line = "#DIVIDER" then "<span class=\"c1\">#DIVIDER</span>" else line

/-- Three files, two of them with one name. -/
def twinTree : FileTree where
  entries := [(["x"], .directory), (["a.py", "x"], .file (Utf8.encode "x = 1\n")),
    (["y"], .directory), (["a.py", "y"], .file (Utf8.encode "y = 2\n")),
    (["b.py", "y"], .file (Utf8.encode "z = 3\n"))]
  here := []

/-- The command to document some of them. -/
def toDocument (files : List Path) : Arguments :=
  ⟨files, none, none, none, false, false⟩

/-- The documenter of that command. -/
def standardDocumenter (sources : List Text) : Documenter :=
  ⟨.builtin, Documenter.highlighterOf .standard, ⟨"docs"⟩, sources⟩

/-- The outside where that tool is installed at every turn. -/
def marking : Nat → Outside :=
  fun _ => markingTool

theorem documenter?_toDocument {files : List Path} (hfiles : files ≠ []) :
    documenter? marking (toDocument files) twinTree
      = some (standardDocumenter (files.map Page.sourceName)) := by
  rw [documenter?, if_neg (show (toDocument files).files ≠ [] from hfiles)]
  rfl

/-- What that command leaves and reports. -/
theorem perform_toDocument {files : List Path} (hfiles : files ≠ []) :
    let documenter := standardDocumenter (files.map Page.sourceName)
    let run := perform twinTree (run marking (.document (toDocument files)))
    run.2 = documenter.diskAfter marking twinTree files
      ∧ ∀ file target, .logged (generated file target) ∈ run.1.events
        ↔ ∃ front behind, files = front ++ file :: behind
          ∧ (documenter.outcomeAfter marking twinTree front file).result = .ok target :=
  (perform_document marking (toDocument files) twinTree).2 _ (documenter?_toDocument hfiles)

/-- A list of one file has one turn. -/
theorem eq_of_singleton_eq {first file : Path} {front behind : List Path}
    (h : [first] = front ++ file :: behind) : front = [] ∧ file = first := by
  cases front with
  | nil => exact ⟨rfl, (List.cons.inj h).1.symm⟩
  | cons other front =>
    have htail : [] = front ++ file :: behind := (List.cons.inj h).2
    exact absurd htail.symm (List.append_ne_nil_of_right_ne_nil _ (List.cons_ne_nil _ _))

theorem document_pages_of_twoNames :
    let files : List Path := [⟨"x/a.py"⟩, ⟨"y/b.py"⟩]
    let run := perform twinTree (run marking (.document (toDocument files)))
    .logged (generated ⟨"x/a.py"⟩ ⟨"docs/a.html"⟩) ∈ run.1.events
      ∧ HoldsPage (standardDocumenter ["a", "b"]) marking twinTree run.2 []
          ⟨"x/a.py"⟩ ⟨"docs/a.html"⟩ := by
  intro files run
  obtain ⟨-, hreports⟩ := perform_toDocument (List.cons_ne_nil ⟨"x/a.py"⟩ [⟨"y/b.py"⟩])
  have hresult : ((standardDocumenter ["a", "b"]).outcomeAfter marking twinTree []
      ⟨"x/a.py"⟩).result = .ok ⟨"docs/a.html"⟩ := by decide +kernel
  have hreported : .logged (generated ⟨"x/a.py"⟩ ⟨"docs/a.html"⟩) ∈ run.1.events :=
    (hreports _ _).mpr ⟨[], [⟨"y/b.py"⟩], rfl, hresult⟩
  obtain ⟨documenter, hdocumenter, htarget, -, -, halone⟩ :=
    document_pages marking (toDocument files) twinTree _ _ hreported
  rw [documenter?_toDocument (List.cons_ne_nil _ _)] at hdocumenter
  cases hdocumenter
  refine ⟨hreported, halone [] [⟨"y/b.py"⟩] rfl hresult
    fun between other rest sent hsplit hsent hsame => ?_⟩
  rw [hsent.1, htarget] at hsame
  -- A page at that place has its name, which the other file's page has not.
  obtain ⟨-, rfl⟩ := eq_of_singleton_eq hsplit
  exact absurd (Documenter.pageName_eq_of_samePlace (by decide) (by decide) hsame) (by decide)

/-- Pages with the same title and links differ only in their rows. -/
theorem encode_rows_inj {title : Text} {sources : List Text} {rows rows' : List Page.Row}
    (h : Utf8.encode (Page.render title sources rows)
      = Utf8.encode (Page.render title sources rows')) :
    Utf8.encode (rows.flatMap Page.Row.render) = Utf8.encode (rows'.flatMap Page.Row.render) := by
  have happend : ∀ front back,
      Utf8.encode (front ++ back) = Utf8.encode front ++ Utf8.encode back :=
    fun _ _ => List.flatMap_append
  rw [Page.render, Page.render, happend, happend (_ ++ rows'.flatMap _), happend,
    happend (_ ++ _) (rows'.flatMap _)] at h
  exact List.append_cancel_left (List.append_cancel_right h)

/-- The page of a file in a language with hash comments, from its
highlighted sections. -/
theorem page_standardDocumenter {sources : List Text} {source : Text}
    {highlighted : List HighlightedSection}
    (hlanguage : Language.Registry.builtin.resolve file = .ok Highlight.hashLanguage)
    (h : (Highlight.highlightSections markingTool (standardDocumenter sources).highlighter
      Highlight.hashLanguage (Highlight.hashLanguage.segment source)).result = .ok highlighted) :
    ((standardDocumenter sources).page markingTool file source).result
      = .ok (Page.render (Page.sourceName file) sources (highlighted.map Documenter.row)) := by
  rw [Documenter.page_of_resolve hlanguage, Documenter.result_pageIn, h]
  rfl

/-- What the marking tool makes of the two files. -/
theorem highlighted_twins : ∀ line ∈ (["x = 1", "y = 2"] : List Text),
    (Highlight.highlightSections markingTool (standardDocumenter ["a", "a"]).highlighter
      Highlight.hashLanguage (Highlight.hashLanguage.segment (line ++ ['\n']))).result
      = .ok [⟨⟨0, [], line ++ "\n\n"⟩, Highlight.marked line⟩] := by
  decide +kernel

/-- Both files are reported with one output, and in the end it does not
have the page of the first. -/
theorem pageOverwritten :
    let files : List Path := [⟨"x/a.py"⟩, ⟨"y/a.py"⟩]
    let run := perform twinTree (run marking (.document (toDocument files)))
    twinTree.WellFormed ∧ files.Nodup
      ∧ .logged (generated ⟨"x/a.py"⟩ ⟨"docs/a.html"⟩) ∈ run.1.events
      ∧ .logged (generated ⟨"y/a.py"⟩ ⟨"docs/a.html"⟩) ∈ run.1.events
      ∧ documenter? marking (toDocument files) twinTree = some (standardDocumenter ["a", "a"])
      ∧ ¬ HoldsPage (standardDocumenter ["a", "a"]) marking twinTree run.2 []
          ⟨"x/a.py"⟩ ⟨"docs/a.html"⟩ := by
  intro files run
  have htree : twinTree.WellFormed := by decide +kernel
  obtain ⟨hlater, hreports⟩ := perform_toDocument (List.cons_ne_nil ⟨"x/a.py"⟩ [⟨"y/a.py"⟩])
  have hlast : ((standardDocumenter ["a", "a"]).outcomeAfter marking twinTree [⟨"x/a.py"⟩]
      ⟨"y/a.py"⟩).result = .ok ⟨"docs/a.html"⟩ := by decide +kernel
  refine ⟨htree, by decide, (hreports _ _).mpr ⟨[], [⟨"y/a.py"⟩], rfl, by decide +kernel⟩,
    (hreports _ _).mpr ⟨[⟨"x/a.py"⟩], [], rfl, hlast⟩,
    documenter?_toDocument (List.cons_ne_nil _ _), ?_⟩
  rintro ⟨source, page, hread, hpage, hheld⟩
  -- The first file is read as it was, and has a page of its own.
  have hsource : (perform twinTree (Disk.readText ⟨"x/a.py"⟩)).1
      = .ok (("x = 1" : Text) ++ ['\n']) := by
    decide +kernel
  cases hsource.symm.trans hread
  have hdrawn := @page_standardDocumenter ⟨"x/a.py"⟩ ["a", "a"] _ _ (by decide +kernel)
    (highlighted_twins _ List.mem_cons_self)
  cases hdrawn.symm.trans hpage
  -- The second file is the last one to write, and has another page.
  have hsecond : files = [⟨"x/a.py"⟩] ++ ⟨"y/a.py"⟩ :: [] := rfl
  have hnone : ∀ between (other : Path) rest, [] ≠ between ++ other :: rest :=
    fun between other rest =>
      (List.append_ne_nil_of_right_ne_nil between (List.cons_ne_nil other rest)).symm
  obtain ⟨source', page', hread', hpage', hheld'⟩ :=
    (Documenter.lastSent_of_ok hsecond hlast fun between other rest _ hrest =>
      absurd hrest (hnone between other rest)).holdsPage hlast
  have hsource' : (perform ((standardDocumenter ["a", "a"]).diskAfter marking twinTree
      [⟨"x/a.py"⟩]) (Disk.readText ⟨"y/a.py"⟩)).1 = .ok (("y = 2" : Text) ++ ['\n']) := by
    decide +kernel
  cases hsource'.symm.trans hread'
  have hdrawn' := @page_standardDocumenter ⟨"y/a.py"⟩ ["a", "a"] _ _ (by decide +kernel)
    (highlighted_twins _ (List.mem_cons_of_mem _ List.mem_cons_self))
  cases hdrawn'.symm.trans hpage'
  rw [hlater] at hheld
  have hsame := encode_rows_inj (hheld.unique hheld')
  exact absurd hsame (by decide +kernel)

end CommandLine

end Marginalia
