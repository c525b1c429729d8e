import Marginalia.Proofs.Documenter.Outcomes

/-!
# `Marginalia.Proofs.Documenter.Confined`: pages in the output directory

A tree has no links, so the path of a page leads nowhere but into the
output directory, under the name of the page (`find_location`). What a run
over some files writes is therefore in that directory
(`at?_diskAfter_confined`), and a path that is reported leads to a file
there (`find_reported`). Pages with different names are at different places
(`pageName_eq_of_samePlace`).

The names have no slashes. That is where well-formed trees come in: only in
these is a source that can be read sure to have a name of its own
(`not_mem_sourceName`).
-/

set_option autoImplicit false

namespace Marginalia.Documenter

open Disk (perform)
open Highlight (Outside Traced)

variable {documenter : Documenter} {outside : Nat → Outside} {output path file target : Path}
  {tree : FileTree} {place : Location} {files front : List Path}

/-! ### Names and places of pages -/

/-- A source that could be read has a name without slashes. -/
theorem not_mem_sourceName {text : Text} (htree : tree.WellFormed)
    (hread : (perform tree (Disk.readText path)).1 = .ok text) : '/' ∉ Page.sourceName path := by
  rw [Disk.perform_readText] at hread
  cases hcontent : (perform tree (Disk.read path)).1 with
  | error reason =>
    rw [hcontent] at hread
    cases hread
  | ok content =>
    obtain ⟨name, hname⟩ := FileTree.exists_fileName_of_read htree hcontent
    have hsource : Page.sourceName path = Path.stemOf name := by
      rw [Page.sourceName, Path.fileStem?, hname]
      rfl
    rw [hsource]
    exact fun hslash => Path.not_mem_of_fileName? hname (Path.stemOf_subset name hslash)

/-- The file name of a page. -/
def pageName (file : Path) : Text :=
  Page.sourceName file ++ ".html"

theorem isName_pageName (file : Path) : Path.IsName (pageName file) := by
  have hlength : 5 ≤ (pageName file).length := by
    rw [pageName, List.length_append]
    exact Nat.le_add_left 5 _
  refine ⟨?_, ?_, ?_⟩
  · intro h
    rw [h] at hlength
    cases hlength
  · intro h
    rw [h] at hlength
    exact absurd hlength (by decide)
  · intro h
    rw [h] at hlength
    exact absurd hlength (by decide)

/-- The path of a page leads into the output directory. -/
theorem find_location (hname : '/' ∉ Page.sourceName file)
    (h : tree.find (Page.location output file) = .ok place) :
    ∃ inside, tree.base output = .ok inside ∧ place = pageName file :: inside := by
  have hslash : '/' ∉ pageName file := by
    rw [pageName, List.mem_append, not_or]
    exact ⟨hname, by decide⟩
  exact FileTree.find_join (isName_pageName file) hslash h

/-- Pages at one place have one name. -/
theorem pageName_eq_of_samePlace {other : Path} (hname : '/' ∉ Page.sourceName file)
    (hother : '/' ∉ Page.sourceName other)
    (h : Disk.SamePlace tree (Page.location output file) (Page.location output other)) :
    pageName file = pageName other := by
  obtain ⟨place, hfile, hplace⟩ := h
  obtain ⟨inside, -, rfl⟩ := find_location hname (FileTree.find?_eq_some_iff.mp hfile)
  obtain ⟨inside', -, heq⟩ := find_location hother (FileTree.find?_eq_some_iff.mp hplace)
  exact (List.cons.inj heq).1

/-! ### Runs -/

theorem wellFormed_diskAfter (documenter : Documenter) (outside : Nat → Outside)
    (htree : tree.WellFormed) (files : List Path) :
    (documenter.diskAfter outside tree files).WellFormed := by
  have hstart : (documenter.diskAfter outside tree []).WellFormed := htree
  exact stable_diskAfter FileTree.stable_wellFormed hstart files

/-- The source of a page that is sent somewhere has a name without
slashes. -/
theorem not_mem_sourceName_of_sent (htree : tree.WellFormed)
    (hsent : Sent documenter file target (documenter.outcomeAfter outside tree front file)) :
    '/' ∉ Page.sourceName file := by
  have hturn := published_after documenter outside tree front file
  obtain ⟨text, hread⟩ := hturn.exists_text_of_sent hsent
  exact not_mem_sourceName (wellFormed_diskAfter documenter outside htree front) hread

/-- A reported path leads to a file in the output directory, which has the
name of the source's page. -/
theorem find_reported (htree : tree.WellFormed)
    (h : (documenter.outcomeAfter outside tree front file).result = .ok target)
    (behind : List Path) :
    let later := documenter.diskAfter outside tree (front ++ file :: behind)
    target = Page.location documenter.output file
      ∧ ∃ inside content, later.base documenter.output = .ok inside
        ∧ later.find target = .ok (pageName file :: inside)
        ∧ later.at? (pageName file :: inside) = some (.file content) := by
  intro later
  have hturn := published_after documenter outside tree front file
  have hname := not_mem_sourceName_of_sent htree (hturn.sent_of_ok h)
  obtain ⟨rfl, source, page, between, -, -, hwrite⟩ := hturn.written_of_ok h
  obtain ⟨written, hputs⟩ := LawfulDisk.write_ok hwrite
  -- From its own turn on a file is there, whatever the others write.
  have hlater : documenter.diskAfter outside tree ((front ++ [file]) ++ behind) = later := by
    rw [List.append_assoc]
    rfl
  have hkeeps := keeps_diskAfter documenter outside tree (front ++ [file]) behind
  obtain ⟨content, hcontent⟩ := exists_file_diskAfter hputs.there behind
  rw [hlater] at hkeeps hcontent
  have hfind := FileTree.find?_eq_some_iff.mp (hkeeps.find hputs.find)
  obtain ⟨inside, hbase, rfl⟩ := find_location hname hfind
  exact ⟨rfl, inside, content, hbase, hfind, hcontent⟩

/-- What a run writes are files in the output directory, which have the
names of pages. Besides that only directories are new. -/
theorem at?_diskAfter_confined (htree : tree.WellFormed) {inside : Location}
    (hinside : (documenter.diskAfter outside tree files).base documenter.output = .ok inside)
    (place : Location) :
    let later := documenter.diskAfter outside tree files
    later.at? place = tree.at? place
      ∨ (tree.at? place = none ∧ later.at? place = some .directory)
      ∨ ∃ source ∈ files, place = pageName source :: inside := by
  intro later
  rcases at?_diskAfter_cases documenter outside tree [] files place with
    hsame | hdirectory | ⟨front, source, behind, target, content, hsplit, hsent, hfind, -⟩
  · exact .inl hsame
  · exact .inr (.inl hdirectory)
  · have hname := not_mem_sourceName_of_sent htree hsent
    rw [hsent.1] at hfind
    obtain ⟨inside', hbase, rfl⟩ := find_location hname (FileTree.find?_eq_some_iff.mp hfind)
    have hsame : inside' = inside := Except.ok.inj (hbase.symm.trans hinside)
    refine .inr (.inr ⟨source, ?_, by rw [hsame]⟩)
    rw [hsplit]
    exact List.mem_append_right _ List.mem_cons_self

end Marginalia.Documenter
