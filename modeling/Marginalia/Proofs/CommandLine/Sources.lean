import Marginalia.Proofs.CommandLine.OwnPages

/-!
# `Marginalia.Proofs.CommandLine.Sources`: what happens to the files read

A run writes pages and nothing else, so a file keeps its content unless a
page is sent to its place. That can happen to a source: with a language for
files called `.html`, a source in the output directory has the name of its
own page, and `sourceReplaced` is a run that replaces it.

`document_keeps` says that nothing else can happen, on any lawful disk. If
the last page that is sent to the place of a file is reported, the file has
that page in the end. If writing it failed, nothing is known of the file
but that it is one.
-/

set_option autoImplicit false

namespace Marginalia.CommandLine

open Disk (perform)
open DiskView (at?)
open Highlight (Event Outside)
open Documenter (HoldsPage LastSent Sent generated)

/-- **A run changes no file but where it sends a page.** Take any run on a
lawful disk. If it does not come to its files, the disk is as before. If it
does, take a file.

- If no page is sent to its place, under whatever path, the file is as
  before.
- If one is, the file is still a file, and there is a last turn that sends
  a page there. If this one is reported, the file has its page in the
  end. -/
theorem document_keeps {σ : Type} [Disk (StateM σ)] [LawfulDisk σ] [Language.Patterns]
    (outside : Nat → Outside) (arguments : Arguments) (s : σ) :
    let later := (perform s (run outside (.document arguments))).2
    (documenter? outside arguments s = none → later = s)
      ∧ ∀ documenter, documenter? outside arguments s = some documenter →
      ∀ file content, Disk.Holds s file content →
        ((∀ front source behind sent, arguments.files = front ++ source :: behind →
            Sent documenter source sent (documenter.outcomeAfter outside s front source) →
            ¬Disk.SamePlace later sent file) →
          Disk.Holds later file content)
        ∧ ∀ front source behind sent, arguments.files = front ++ source :: behind →
            Sent documenter source sent (documenter.outcomeAfter outside s front source) →
            Disk.SamePlace later sent file →
            sent = Page.location documenter.output source
              ∧ (∃ found, Disk.Holds later file found)
              ∧ ∃ before owner last rest,
                LastSent documenter outside s arguments.files file before owner last rest
                ∧ ((documenter.outcomeAfter outside s before owner).result = .ok last →
                    HoldsPage documenter outside s later before owner file) := by
  intro later
  have hperformed := perform_document outside arguments s
  have hlater : later = (perform s (document outside arguments)).2 := rfl
  clear_value later
  refine ⟨fun hnone => hlater.trans (hperformed.1 hnone).1, fun documenter hdocumenter => ?_⟩
  obtain rfl := hlater.trans (hperformed.2 documenter hdocumenter).1
  rintro file content ⟨place, hfind, hfile⟩
  have hkept := (Documenter.keeps_diskAfter documenter outside s [] arguments.files).find hfind
  have hstart : at? (documenter.diskAfter outside s []) place = some (.file content) := hfile
  constructor
  · intro hspared
    refine ⟨place, hkept, Documenter.file_diskAfter hstart ?_⟩
    intro front source behind sent hsplit hsent hleads
    exact hspared front source behind sent hsplit hsent ⟨place, hleads, hkept⟩
  · intro front source behind sent hsplit hsent hleads
    obtain ⟨found, hfound⟩ := Documenter.exists_file_diskAfter hstart arguments.files
    obtain ⟨before, owner, last, rest, hlast⟩ := Documenter.exists_lastSent hsplit hsent hleads
    exact ⟨hsent.1, ⟨found, place, hkept, hfound⟩, before, owner, last, rest, hlast,
      hlast.holdsPage⟩

/-! ### A source with the name of its page -/

/-- Settings that make pages a language and put them beside their
sources. -/
def pageSettings : Text :=
  "output = \".\"\n[languages.html]\nname = \"html\"\nsymbols = [\"#\"]\n"

/-- A source in the directory that pages go to. -/
def pageTree : FileTree where
  entries := [(["phocco.toml"], .file (Utf8.encode pageSettings)),
    (["a.html"], .file (Utf8.encode "x = 1\n"))]
  here := []

/-- The run over that source. -/
def pageRun : Outcome × FileTree :=
  perform pageTree (run marking (.document (toDocument [⟨"a.html"⟩])))

theorem pageRun_eq :
    perform pageTree (run marking (.document (toDocument [⟨"a.html"⟩]))) = pageRun :=
  rfl

theorem pageRun_eq_document :
    perform pageTree (document marking (toDocument [⟨"a.html"⟩])) = pageRun :=
  rfl

/-- The settings are kept. The source is not: it is where its own page
goes. -/
theorem document_keeps_settings :
    Disk.Holds pageRun.2 ⟨"phocco.toml"⟩ (Utf8.encode pageSettings)
      ∧ ∃ documenter, documenter? marking (toDocument [⟨"a.html"⟩]) pageTree = some documenter
        ∧ HoldsPage documenter marking pageTree pageRun.2 [] ⟨"a.html"⟩ ⟨"a.html"⟩ := by
  have hsettings : pageTree.read ⟨"phocco.toml"⟩ = .ok (Utf8.encode pageSettings) := by
    decide +kernel
  have hsource : pageTree.read ⟨"a.html"⟩ = .ok (Utf8.encode "x = 1\n") := by
    decide +kernel
  have houtput : (documenter? marking (toDocument [⟨"a.html"⟩]) pageTree).map Documenter.output
      = some ⟨"."⟩ := by
    decide +kernel
  have hreported : .logged (generated ⟨"a.html"⟩ ⟨"./a.html"⟩) ∈ pageRun.1.events := by
    decide +kernel
  have hplace : pageRun.2.find ⟨"./a.html"⟩ = .ok ["a.html"]
      ∧ pageRun.2.find ⟨"a.html"⟩ = .ok ["a.html"]
      ∧ pageRun.2.find ⟨"phocco.toml"⟩ = .ok ["phocco.toml"] := by
    decide +kernel
  have hkeeps := document_keeps marking (toDocument [⟨"a.html"⟩]) pageTree
  have hperformed := perform_document marking (toDocument [⟨"a.html"⟩]) pageTree
  -- From here on the run has a name, so that nobody follows it anew.
  rw [pageRun_eq] at hkeeps
  rw [pageRun_eq_document] at hperformed
  cases hdocumenter : documenter? marking (toDocument [⟨"a.html"⟩]) pageTree with
  | none =>
    rw [hdocumenter] at houtput
    cases houtput
  | some documenter =>
    rw [hdocumenter] at houtput
    have hkeeps := hkeeps.2 documenter hdocumenter
    have hreports := (hperformed.2 documenter hdocumenter).2
    have hlocation : ∀ source sent outcome, Sent documenter source sent outcome →
        source = ⟨"a.html"⟩ → sent = ⟨"./a.html"⟩ := by
      rintro source sent outcome ⟨rfl, -⟩ rfl
      rw [Option.some.inj houtput]
      decide +kernel
    refine ⟨(hkeeps _ _ (FileTree.holds_iff.mpr hsettings)).1 ?_, documenter, rfl, ?_⟩
    · rintro front source behind sent hsplit hsent ⟨place, hsentTo, hfile⟩
      rw [hlocation _ _ _ hsent (eq_of_singleton_eq hsplit).2] at hsentTo
      cases hplace.1.symm.trans (FileTree.find?_eq_some_iff.mp hsentTo)
      cases hplace.2.2.symm.trans (FileTree.find?_eq_some_iff.mp hfile)
    · obtain ⟨front, behind, hsplit, hresult⟩ := (hreports _ _).mp hreported
      have hsent := (Documenter.published_after documenter marking pageTree front
        ⟨"a.html"⟩).sent_of_ok hresult
      have hsame : Disk.SamePlace pageRun.2 ⟨"./a.html"⟩ ⟨"a.html"⟩ :=
        ⟨["a.html"], FileTree.find?_eq_some_iff.mpr hplace.1,
          FileTree.find?_eq_some_iff.mpr hplace.2.1⟩
      obtain ⟨-, -, before, owner, last, rest, hlast, hholds⟩ :=
        (hkeeps _ _ (FileTree.holds_iff.mpr hsource)).2 front _ behind _ hsplit hsent hsame
      -- The last turn is the only one.
      obtain ⟨rfl, -⟩ := eq_of_singleton_eq hsplit
      obtain ⟨rfl, rfl⟩ := eq_of_singleton_eq hlast.split
      rw [hlocation _ _ _ hlast.sent rfl] at hholds
      exact hholds hresult

/-- A run that succeeds and does not leave its source as it was. -/
theorem sourceReplaced :
    pageTree.WellFormed ∧ pageRun.1.verdict = .success
      ∧ pageTree.read ⟨"a.html"⟩ = .ok (Utf8.encode "x = 1\n")
      ∧ pageRun.2.read ⟨"a.html"⟩ ≠ .ok (Utf8.encode "x = 1\n") := by
  decide +kernel

end Marginalia.CommandLine
