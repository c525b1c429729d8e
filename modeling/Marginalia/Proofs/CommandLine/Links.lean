import Mathlib.Data.List.Forall2
import Marginalia.Proofs.CommandLine.Files
import Marginalia.Proofs.CommandLine.OwnPages
import Marginalia.Proofs.Page.Links

/-!
# `Marginalia.Proofs.CommandLine.Links`: links between pages

The name of a page is worked out twice: for the file that the page is
written to, and, escaped, for the links that the other pages have to it.
`unescape_href` says that both are one name. As it has no slash, a link
leads to a file in the output directory.

`document_links` puts this together for a run over several files that
succeeds. What it writes is in the output directory, and every page it
writes has one link for each file of the run, in order, which leads to the
page of that file.
-/

set_option autoImplicit false

namespace Marginalia

open Disk (perform)
open Highlight (Outside)
open Documenter (generated pageName)

variable {documenter : Documenter} {file : Path}

/-- A page is laid out with links to the sources of its documenter. -/
theorem Documenter.exists_render {outside : Outside} {text page : Text}
    (h : (documenter.page outside file text).result = .ok page) :
    ∃ rows, page = Page.render (Page.sourceName file) documenter.sources rows := by
  cases hresolve : documenter.registry.resolve file with
  | error reason =>
    rw [Documenter.page, hresolve] at h
    cases h
  | ok profile =>
    rw [page_of_resolve hresolve, result_pageIn] at h
    revert h
    cases (Highlight.highlightSections outside documenter.highlighter profile
      (profile.segment text)).result with
    | error e =>
      intro h
      cases h
    | ok highlighted =>
      intro h
      cases h
      exact ⟨_, rfl⟩

/-- Where a page links to the page of a source, as it is written. -/
def hrefTo (source : Path) : Text :=
  Text.escapeQuoted (Page.sourceName source) ++ ".html"

/-- What is written stands for the name of the page. -/
theorem unescape_href (source : Path) : Text.unescape (hrefTo source) = pageName source := by
  rw [hrefTo, Text.unescape_escapeQuoted_append]
  rfl

/-- Every page has the links to all sources. -/
theorem links_of_page {outside : Outside} {files : List Path} {text page : Text}
    (h : ((documenter.withSources files).page outside file text).result = .ok page)
    (hseveral : 1 < files.length) : Page.links page = files.map hrefTo := by
  obtain ⟨rows, rfl⟩ := Documenter.exists_render h
  have hnames : 1 < (files.map Page.sourceName).length := by
    rw [List.length_map]
    exact hseveral
  show Page.links (Page.render _ (files.map Page.sourceName) rows) = _
  rw [Page.links_render _ hnames, List.map_map]
  rfl

namespace CommandLine

variable {arguments : Arguments} {outside : Nat → Outside} {tree : FileTree}

/-- In a run that succeeds every file has a page. -/
theorem exists_target_of_success [Language.Patterns] (hfiles : arguments.files ≠ [])
    (h : (perform tree (document outside arguments)).1.verdict = .success) :
    ∃ config documenter,
      setUp (outside 0) arguments (perform tree (configOf arguments)).1 = .ok (config, documenter)
        ∧ ∀ front file behind, arguments.files = front ++ file :: behind →
          ∃ target, (documenter.outcomeAfter outside tree front file).result = .ok target := by
  have hfound : perform tree (configOf arguments) = ((perform tree (configOf arguments)).1, tree) :=
    Prod.ext rfl (state_configOf arguments tree)
  cases hsetUp : setUp (outside 0) arguments (perform tree (configOf arguments)).1 with
  | error outcome =>
    obtain ⟨records, message, rfl, -⟩ := setUp_eq_error hsetUp
    rw [perform_document_of_abandoned hfiles hfound hsetUp] at h
    cases h
  | ok ready =>
    obtain ⟨config, documenter⟩ := ready
    rw [perform_document_of_setUp hfiles hfound hsetUp,
      finish_eq documenter config (documenter.length_outcomes outside tree arguments.files)] at h
    split at h
    · rename_i hnone
      refine ⟨config, documenter, rfl, ?_⟩
      rintro front file behind hsplit
      have hturn := documenter.getElem?_outcomes outside tree front file behind
      rw [← hsplit] at hturn
      exact countP_failed_eq_zero_iff.mp hnone _ (List.mem_of_getElem? hturn)
    · cases h

/-- A link leads to the page of a source: read as a name in the output
directory it is the path that the source is reported with, and a file is
there. -/
structure LeadsTo (run : Outcome × FileTree) (output : Path) (inside : Location)
    (source : Path) (href : Text) : Prop where
  reported : .logged (generated source (output.join ⟨Text.unescape href⟩)) ∈ run.1.events
  place : run.2.find (output.join ⟨Text.unescape href⟩) = .ok (Text.unescape href :: inside)
  isFile : run.2.isFile (output.join ⟨Text.unescape href⟩) = true

/-- The link to a source that is reported leads to its page. -/
theorem leadsTo_href (htree : tree.WellFormed) {outcome : Outcome} {files front behind : List Path}
    {source target : Path} {inside : Location} (hsplit : files = front ++ source :: behind)
    (hresult : (documenter.outcomeAfter outside tree front source).result = .ok target)
    (hreported : .logged (generated source target) ∈ outcome.events)
    (hinside : (documenter.diskAfter outside tree files).base documenter.output = .ok inside) :
    LeadsTo (outcome, documenter.diskAfter outside tree files) documenter.output inside source
      (hrefTo source) := by
  obtain ⟨rfl, inside', content, hbase, hfind, hfile⟩ :=
    Documenter.find_reported htree hresult behind
  rw [← hsplit] at hbase hfind hfile
  have hsame : inside' = inside := Except.ok.inj (hbase.symm.trans hinside)
  subst hsame
  have htarget : documenter.output.join ⟨Text.unescape (hrefTo source)⟩
      = Page.location documenter.output source := by
    rw [unescape_href]
    rfl
  refine ⟨?_, ?_, ?_⟩
  · rw [htarget]
    exact hreported
  · rw [htarget, unescape_href]
    exact hfind
  · show FileTree.isFile _ _ = true
    rw [htarget, FileTree.isFile, FileTree.get?, hfind]
    dsimp only
    rw [hfile]

/-- **Links lead to pages.** Take a run over at least two files on a
well-formed tree that succeeds.

- What it writes are files in the output directory, which have the names of
  pages of its sources. Besides that only directories are new.
- Every page that it writes has one link for each file of the run, in
  order. Read as an attribute value, and then as the name of a file in the
  output directory, it leads to the page of that file. -/
theorem document_links [Language.Patterns] (outside : Nat → Outside) (arguments : Arguments)
    (tree : FileTree) (htree : tree.WellFormed) (hseveral : 2 ≤ arguments.files.length)
    (hsuccess : (perform tree (run outside (.document arguments))).1.verdict.code = 0) :
    let run := perform tree (run outside (.document arguments))
    ∃ documenter inside, documenter? outside arguments tree = some documenter
      ∧ run.2.base documenter.output = .ok inside
      ∧ (∀ place, run.2.at? place = tree.at? place
          ∨ (tree.at? place = none ∧ run.2.at? place = some .directory)
          ∨ ∃ source ∈ arguments.files, place = pageName source :: inside)
      ∧ ∀ front file behind, arguments.files = front ++ file :: behind →
          ∃ target page, .logged (generated file target) ∈ run.1.events
            ∧ (documenter.diskAfter outside tree (front ++ [file])).read target
              = .ok (Utf8.encode page)
            ∧ List.Forall₂ (LeadsTo run documenter.output inside) arguments.files
                (Page.links page) := by
  have hfiles : arguments.files ≠ [] := by
    intro hnil
    rw [hnil] at hseveral
    exact absurd hseveral (by decide)
  obtain ⟨config, documenter, hsetUp, htargets⟩ :=
    exists_target_of_success hfiles (Verdict.eq_success_of_code hsuccess)
  have hfound : perform tree (configOf arguments) = ((perform tree (configOf arguments)).1, tree) :=
    Prod.ext rfl (state_configOf arguments tree)
  intro run
  have hrun : run = (finish documenter config arguments.files
      (documenter.outcomes outside tree arguments.files),
      documenter.diskAfter outside tree arguments.files) :=
    perform_document_of_setUp hfiles hfound hsetUp
  clear_value run
  subst hrun
  have hreports : ∀ front source behind target, arguments.files = front ++ source :: behind →
      (documenter.outcomeAfter outside tree front source).result = .ok target →
      .logged (generated source target) ∈ (finish documenter config arguments.files
        (documenter.outcomes outside tree arguments.files)).events := by
    intro front source behind target hsplit hresult
    rw [generated_mem_finish, generated_mem_tallyOf]
    exact ⟨front, behind, hsplit, hresult⟩
  -- The first file says where the output directory is.
  obtain ⟨first, others, hfirst⟩ := List.exists_cons_of_ne_nil hfiles
  obtain ⟨firstTarget, hfirstResult⟩ := htargets [] first others hfirst
  obtain ⟨-, inside, -, hinside, -, -⟩ := Documenter.find_reported htree hfirstResult others
  rw [List.nil_append, ← hfirst] at hinside
  refine ⟨documenter, inside, documenter?_of_setUp hfiles hfound hsetUp, hinside,
    Documenter.at?_diskAfter_confined htree hinside, fun front file behind hsplit => ?_⟩
  obtain ⟨target, hresult⟩ := htargets front file behind hsplit
  have hturn := Documenter.published_after documenter outside tree front file
  obtain ⟨-, text, page, between, -, hpage, hwrite⟩ := hturn.written_of_ok hresult
  obtain ⟨place, hputs⟩ := LawfulDisk.write_ok hwrite
  refine ⟨target, page, hreports front file behind target hsplit hresult,
    FileTree.holds_iff.mp ⟨place, hputs.find, hputs.there⟩, ?_⟩
  obtain ⟨settings, bare, -, -, -, rfl⟩ := setUp_eq_ok hsetUp
  rw [links_of_page hpage hseveral, List.forall₂_map_right_iff, List.forall₂_same]
  intro source hsource
  obtain ⟨front, behind, hsplit⟩ := List.append_of_mem hsource
  obtain ⟨target, hresult⟩ := htargets front source behind hsplit
  exact leadsTo_href htree hsplit hresult (hreports front source behind target hsplit hresult)
    hinside

/-- Two files, one of them with a name that has to be escaped. -/
def quotedTree : FileTree where
  entries := [(["a.py"], .file (Utf8.encode "x = 1\n")),
    (["b&\"c\".py"], .file (Utf8.encode "y = 2\n"))]
  here := []

/-- The run over both. -/
def quotedRun : Outcome × FileTree :=
  perform quotedTree (run marking (.document (toDocument [⟨"a.py"⟩, ⟨"b&\"c\".py"⟩])))

theorem quotedRun_eq :
    perform quotedTree (run marking (.document (toDocument [⟨"a.py"⟩, ⟨"b&\"c\".py"⟩])))
      = quotedRun :=
  rfl

/-- The page of the first file links to both pages. -/
theorem document_links_of_quotedName :
    quotedTree.WellFormed ∧ quotedRun.1.verdict.code = 0
      ∧ ∃ inside target page, .logged (generated ⟨"a.py"⟩ target) ∈ quotedRun.1.events
        ∧ List.Forall₂ (LeadsTo quotedRun ⟨"docs"⟩ inside) [⟨"a.py"⟩, ⟨"b&\"c\".py"⟩]
            (Page.links page) := by
  have htree : quotedTree.WellFormed := by decide +kernel
  have hsuccess : quotedRun.1.verdict.code = 0 := by decide +kernel
  have houtput : (documenter? marking (toDocument [⟨"a.py"⟩, ⟨"b&\"c\".py"⟩]) quotedTree).map
      Documenter.output = some ⟨"docs"⟩ := by
    decide +kernel
  have hlinks := document_links marking (toDocument [⟨"a.py"⟩, ⟨"b&\"c\".py"⟩]) quotedTree
    htree (Nat.le_refl 2)
  -- From here on the run has a name, so that nobody follows it anew.
  rw [quotedRun_eq] at hlinks
  obtain ⟨documenter, inside, hdocumenter, -, -, hpages⟩ := hlinks hsuccess
  rw [hdocumenter] at houtput
  obtain ⟨target, page, hreported, -, hleads⟩ := hpages [] _ _ rfl
  rw [Option.some.inj houtput] at hleads
  exact ⟨htree, hsuccess, inside, target, page, hreported, hleads⟩

end CommandLine

end Marginalia
