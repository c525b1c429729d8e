import Marginalia.Proofs.Segment.Concatenation
import Marginalia.Proofs.Text.Returns

/-!
# `Marginalia.Proofs.Segment.LineEndings`: line endings do not matter

Some systems end a line with a carriage return and a line feed. Lines are
cut at line feeds only, so there every line but the last keeps a carriage
return at its end. `segment_withReturns` says that this makes no
difference but in the texts themselves: the sections are the same once
the carriage returns in them are deleted.

Each reader of a line is shown to give the same answer on a line with
carriage returns behind it, or the same rest with carriage returns behind
it (`Text.Trailed`). Above them the proof has the shape of the program:
`contribute_trailed` is what one line contributes, the lemmas about
`Accumulator.withoutReturns` are what is done with it, and `walk_trailed`
is the run. Where a section ends does not depend on its texts, only on the
flag that the accumulator carries.
-/

set_option autoImplicit false

namespace Marginalia

open Marginalia.Language (Profile)
open Text (Trailed)

/-! ### Deleting carriage returns -/

/-- The section without the carriage returns in its texts. -/
def Section.withoutReturns (s : Section) : Section :=
  ⟨s.index, Text.withoutReturns s.docs, Text.withoutReturns s.code⟩

namespace Segment

variable {profile : Profile} {line text trailed rest rest' name : Text} {kind : DocLine}
  {lines lines' : List Text} {tag : Tag}

/-! ### Tags -/

theorem nextWord_trailed (h : Trailed text trailed) :
    (nextWord trailed).1 = (nextWord text).1 ∧
    Trailed (nextWord text).2 (nextWord trailed).2 :=
  ⟨h.trimStart.cutWord.1, h.trimStart.cutWord.2.trimStart⟩

theorem ofRemainder_trailed (kind : TagKind) (h : Trailed text trailed) :
    Tag.ofRemainder kind trailed = Tag.ofRemainder kind text := by
  obtain ⟨htype, hbehind⟩ := nextWord_trailed h
  obtain ⟨hname, hdescription⟩ := nextWord_trailed hbehind
  simp only [Tag.ofRemainder]
  rw [htype, hname, hdescription.trimEnd_eq]

/-- Every tag begins with an at sign. -/
theorem ofText?_eq_none (h : ∀ rest, Text.trimStart text ≠ '@' :: rest) :
    Tag.ofText? text = none := by
  rw [Tag.ofText?]
  split
  · rename_i rest heq
    exact absurd heq (h rest)
  · rfl

/-- A tag is the same tag at the end of a line. -/
theorem ofText?_trailed (h : Trailed text trailed) : Tag.ofText? trailed = Tag.ofText? text := by
  have hat : '@' ≠ '\r' := by decide
  rcases h.trimStart.head_cases hat with ⟨rest, rest', htext, htrailed, hrest⟩ | ⟨htext, htrailed⟩
  · have hremainder : ∀ kind,
        Tag.ofRemainder kind (Text.cutWord rest').2 = Tag.ofRemainder kind (Text.cutWord rest).2 :=
      fun kind => ofRemainder_trailed kind hrest.cutWord.2
    rw [Tag.ofText?, Tag.ofText?, htext, htrailed]
    simp only [hrest.cutWord.1, hremainder]
  · rw [ofText?_eq_none htext, ofText?_eq_none htrailed]

/-- The words of a text are parts of it, and so is what follows them. -/
theorem nextWord_sublist (text : Text) :
    (nextWord text).1.Sublist text ∧ (nextWord text).2.Sublist text := by
  have htrim : (Text.trimStart text).Sublist text := List.dropWhile_sublist _
  exact ⟨(List.takeWhile_sublist _).trans htrim,
    ((List.dropWhile_sublist _).trans (List.dropWhile_sublist _)).trans htrim⟩

/-- The fields of a tag are parts of what it is read from. -/
theorem ofRemainder_sublist (kind : TagKind) (remainder : Text) :
    (Tag.ofRemainder kind remainder).type.Sublist remainder ∧
    (Tag.ofRemainder kind remainder).name.Sublist remainder ∧
    (Tag.ofRemainder kind remainder).description.Sublist remainder := by
  obtain ⟨htype, hbehind⟩ := nextWord_sublist remainder
  obtain ⟨hname, hrest⟩ := nextWord_sublist (nextWord remainder).2
  exact ⟨htype, hname.trans hbehind,
    ((Text.trimEnd_prefix _).sublist.trans hrest).trans hbehind⟩

/-- A tag is written with its fields, blanks and backticks. -/
theorem mem_render {c : Char} (h : c ∈ tag.render) :
    c = ' ' ∨ c = '\x60' ∨ c ∈ tag.type ∨ c ∈ tag.name ∨ c ∈ tag.description := by
  have hsignature : c ∈ tag.signature → c = ' ' ∨ c ∈ tag.type ∨ c ∈ tag.name := by
    rw [Tag.signature]
    split
    · exact fun hname => .inr (.inr hname)
    · split
      · exact fun htype => .inr (.inl htype)
      · simp only [List.mem_append, List.mem_cons]
        tauto
  by_cases hnone : tag.signature = []
  · have hrender : tag.render = tag.description := by
      simp [Tag.render, hnone]
    rw [hrender] at h
    exact .inr (.inr (.inr (.inr h)))
  · have hrender : tag.render
        = '\x60' :: tag.signature ++ ['\x60']
          ++ if tag.description = [] then [] else ' ' :: tag.description := by
      by_cases hempty : tag.description = [] <;> simp [Tag.render, hnone, hempty]
    rw [hrender, List.mem_append] at h
    rcases h with hcode | hdescription
    · simp only [List.cons_append, List.mem_cons, List.mem_append, List.not_mem_nil] at hcode
      tauto
    · split at hdescription
      · cases hdescription
      · rw [List.mem_cons] at hdescription
        tauto

/-- The prose of a tag has no carriage return if its line has none. -/
theorem not_mem_render (h : '\r' ∉ text) (htag : Tag.ofText? text = some tag) :
    '\r' ∉ tag.render := by
  rw [Tag.ofText?] at htag
  split at htag
  · rename_i rest htrim
    obtain ⟨kind, -, rfl⟩ := Option.map_eq_some_iff.mp htag
    have hremainder : (Text.cutWord rest).2.Sublist text := by
      have hsub : (Text.trimStart text).Sublist text := List.dropWhile_sublist _
      rw [htrim] at hsub
      exact ((List.dropWhile_sublist _).trans (List.sublist_cons_self '@' rest)).trans hsub
    obtain ⟨htype, hname, hdescription⟩ := ofRemainder_sublist kind (Text.cutWord rest).2
    intro hmem
    rcases mem_render hmem with hblank | hquote | hmem | hmem | hmem
    · cases hblank
    · cases hquote
    · exact h ((htype.trans hremainder).subset hmem)
    · exact h ((hname.trans hremainder).subset hmem)
    · exact h ((hdescription.trans hremainder).subset hmem)
  · cases htag

theorem not_mem_lead (previous : Option TagKind) (kind : TagKind) :
    '\r' ∉ Tag.lead previous kind := by
  rcases previous with - | - | - <;> cases kind <;> decide

/-! ### Signatures -/

theorem signatureHere?_trailed (h : Trailed text trailed) :
    signatureHere? trailed = signatureHere? text := by
  have hword : '\r' ∉ "function".toList := by decide
  rw [signatureHere?, signatureHere?]
  rcases h.after?_cases hword with ⟨htext, htrailed⟩ | ⟨rest, rest', htext, htrailed, hrest⟩
  · rw [htext, htrailed]
  · rw [htext, htrailed]
    have hspaced := hrest.trimStart
    have hname : (Text.trimStart rest').takeWhile isNameChar
        = (Text.trimStart rest).takeWhile isNameChar :=
      hspaced.takeWhile_eq (by decide)
    -- As many blanks are behind the word, unless nothing else is; then there is no name either.
    have hguard : ((Text.trimStart rest').length < rest'.length
          && (Text.trimStart rest).takeWhile isNameChar != [])
        = ((Text.trimStart rest).length < rest.length
          && (Text.trimStart rest).takeWhile isNameChar != []) := by
      by_cases hvisible : Text.trimStart rest = []
      · rw [hvisible]
        simp
      · have hlength := hrest.length_trimStart hvisible
        congr 2
        rw [eq_iff_iff]
        omega
    have hbehind := (hspaced.dropWhile isNameChar).trimStart
    have hparen : '(' ≠ '\r' := by decide
    simp only [hname, hguard]
    generalize Text.trimStart ((Text.trimStart rest).dropWhile isNameChar) = behind,
      Text.trimStart ((Text.trimStart rest').dropWhile isNameChar) = behind' at hbehind ⊢
    rcases hbehind.head_cases hparen with ⟨_, _, rfl, rfl, -⟩ | ⟨hopen, hopen'⟩
    · rfl
    · split
      · exact absurd rfl (hopen' _)
      · rfl

/-- The same signature is leftmost. -/
theorem signature?_trailed (h : Trailed text trailed) : signature? trailed = signature? text := by
  induction h with
  | behind n =>
    induction n with
    | zero => rfl
    | succ n ih =>
      -- No word begins with a carriage return.
      have hnone : signatureHere? ('\r' :: List.replicate n '\r') = none := rfl
      have hcons : signature? ('\r' :: List.replicate n '\r')
          = (signatureHere? ('\r' :: List.replicate n '\r')).or
            (signature? (List.replicate n '\r')) := rfl
      rw [List.replicate_succ, hcons, hnone, ih]
      rfl
  | @cons c text trailed visible h ih =>
    rw [signature?, signature?, signatureHere?_trailed (h.cons visible), ih]

/-- The name of a function has no carriage return. -/
theorem not_mem_of_signatureHere? (h : signatureHere? text = some name) : '\r' ∉ name := by
  rw [signatureHere?] at h
  split at h
  · cases h
  · rename_i rest _
    simp only at h
    split at h
    · split at h
      · cases h
        intro hmem
        exact absurd (List.all_eq_true.mp List.all_takeWhile _ hmem) (by decide)
      · cases h
    · cases h

theorem not_mem_of_signature? (h : signature? line = some name) : '\r' ∉ name := by
  induction line with
  | nil => cases h
  | cons c line ih =>
    rw [signature?, Option.or_eq_some_iff] at h
    rcases h with hhere | ⟨-, hbehind⟩
    · exact not_mem_of_signatureHere? hhere
    · exact ih hbehind

theorem not_mem_of_documented? (h : documented? profile lines = some name) : '\r' ∉ name := by
  induction lines with
  | nil => cases h
  | cons line lines ih =>
    rw [documented?] at h
    split at h
    · rename_i found hfound
      cases h
      exact not_mem_of_signature? hfound
    · split at h
      · cases h
      · exact ih h

/-! ### Lines -/

section
variable (hsymbols : ∀ symbol ∈ profile.symbols, '\r' ∉ symbol)
include hsymbols

/-- No beginning that makes a line documentation has a carriage return. -/
theorem not_mem_leads : ∀ lead ∈ leads profile, '\r' ∉ lead.2 := by
  intro lead hlead
  rcases List.mem_cons.mp hlead with rfl | hlead
  · decide
  · rcases List.mem_cons.mp hlead with rfl | hlead
    · decide
    · obtain ⟨symbol, hsymbol, rfl⟩ := List.mem_map.mp hlead
      exact hsymbols symbol hsymbol

/-- Lines are documentation in the same way, and what is behind the
beginning that says so is related. -/
theorem classify?_cases (h : Trailed line trailed) :
    (classify? profile line = none ∧ classify? profile trailed = none)
      ∨ ∃ kind rest rest', classify? profile line = some (kind, rest)
        ∧ classify? profile trailed = some (kind, rest') ∧ Trailed rest rest' := by
  have hleads := not_mem_leads hsymbols
  rw [classify?, classify?]
  revert hleads
  induction leads profile with
  | nil => exact fun _ => .inl ⟨rfl, rfl⟩
  | cons lead leads ih =>
    intro hleads
    obtain ⟨kind, lead⟩ := lead
    have hlead := hleads (kind, lead) List.mem_cons_self
    have hothers := ih fun other hother => hleads other (List.mem_cons_of_mem _ hother)
    simp only [List.findSome?_cons]
    rcases h.trimStart.after?_cases hlead with
      ⟨hline, htrailed⟩ | ⟨rest, rest', hline, htrailed, hrest⟩
    · rw [hline, htrailed]
      exact hothers
    · rw [hline, htrailed]
      exact .inr ⟨kind, rest, rest', rfl, rfl, hrest⟩

theorem opensDocblock_trailed (h : Trailed line trailed) :
    opensDocblock profile trailed = opensDocblock profile line := by
  rw [opensDocblock, opensDocblock]
  rcases classify?_cases hsymbols h with
    ⟨hline, htrailed⟩ | ⟨kind, rest, rest', hline, htrailed, -⟩
  · rw [hline, htrailed]
  · rw [hline, htrailed, Option.any_some, Option.any_some]

/-- A docblock is about the same function. -/
theorem documented?_trailed (h : List.Forall₂ Trailed lines lines') :
    documented? profile lines' = documented? profile lines := by
  induction h with
  | nil => rfl
  | cons hline _ ih =>
    rw [documented?, documented?, signature?_trailed hline, opensDocblock_trailed hsymbols hline,
      ih]

/-! ### What a line contributes -/

omit hsymbols in
/-- What is read off a line is the same, and the state behind it too. -/
theorem readTag_trailed (state : Docblock) (h : Trailed rest rest') :
    Text.withoutReturns (state.readTag rest').1 = (state.readTag rest).1 ∧
    (state.readTag rest').2 = (state.readTag rest).2 := by
  rw [Docblock.readTag, Docblock.readTag, ofText?_trailed h]
  cases hinside : state.inside with
  | false => exact ⟨h.withoutReturns_eq, rfl⟩
  | true =>
    cases htag : Tag.ofText? rest with
    | none => exact ⟨h.withoutReturns_eq, rfl⟩
    | some tag =>
      -- The prose is the same in both, so it must not have any to begin with.
      have hprose : '\r' ∉ Tag.lead state.previous tag.kind ++ tag.render := by
        rw [List.mem_append, not_or]
        exact ⟨not_mem_lead _ _, not_mem_render h.not_mem htag⟩
      exact ⟨Text.withoutReturns_of_not_mem hprose, rfl⟩

omit hsymbols in
theorem closes_trailed (kind : DocLine) (h : Trailed rest rest') :
    closes kind rest' = closes kind rest := by
  rw [closes, closes, h.trimEnd_eq]

/-- From the same state both lines contribute
the same, carriage returns aside, and reach the same state. -/
theorem contribute_trailed (state : Docblock) (kind : DocLine) (hrest : Trailed rest rest')
    (hlines : List.Forall₂ Trailed lines lines') :
    Text.withoutReturns (contribute profile state kind rest' lines').1
        = (contribute profile state kind rest lines).1 ∧
    (contribute profile state kind rest' lines').2
        = (contribute profile state kind rest lines).2 := by
  obtain ⟨htext, hnext⟩ := readTag_trailed state hrest
  have hfeed : Text.withoutReturns ((state.readTag rest').1 ++ ['\n'])
      = (state.readTag rest).1 ++ ['\n'] := by
    rw [Text.withoutReturns_append, htext]
    rfl
  simp only [contribute, documented?_trailed hsymbols hlines, closes_trailed kind hrest, hnext]
  split
  · cases hlabel : documented? profile lines with
    | none => exact ⟨hfeed, rfl⟩
    | some name =>
      -- A label replaces the text, so what counts is that the name is free of them.
      have hname : '\r' ∉ label name := by
        simp [label, not_mem_of_documented? hlabel]
      exact ⟨Text.withoutReturns_of_not_mem hname, rfl⟩
  · split
    · exact ⟨rfl, rfl⟩
    · exact ⟨hfeed, rfl⟩

end

/-! ### The accumulator -/

namespace Accumulator

/-- The accumulator without the carriage returns in its texts. -/
def withoutReturns (acc : Accumulator) : Accumulator :=
  ⟨acc.sections.map Section.withoutReturns, Text.withoutReturns acc.docs,
    Text.withoutReturns acc.code, acc.hasCode⟩

theorem flush_withoutReturns (acc : Accumulator) :
    acc.flush.withoutReturns = acc.withoutReturns.flush := by
  simp only [withoutReturns, flush, List.map_append, List.map_cons, List.map_nil,
    Section.withoutReturns, List.length_map]
  rfl

theorem turn_withoutReturns (acc : Accumulator) :
    acc.turn.withoutReturns = acc.withoutReturns.turn := by
  by_cases h : acc.hasCode = true
  · have h' : acc.withoutReturns.hasCode = true := h
    rw [turn, if_pos h, turn, if_pos h', flush_withoutReturns]
  · have h' : ¬acc.withoutReturns.hasCode = true := h
    rw [turn, if_neg h, turn, if_neg h']

theorem addDocs_withoutReturns (acc : Accumulator) (text : Text) :
    (acc.addDocs text).withoutReturns
      = acc.withoutReturns.addDocs (Text.withoutReturns text) := by
  rw [addDocs, addDocs, ← turn_withoutReturns]
  simp only [withoutReturns, Text.withoutReturns_append]

theorem addCode_withoutReturns (acc : Accumulator) (line : Text) :
    (acc.addCode line).withoutReturns
      = acc.withoutReturns.addCode (Text.withoutReturns line) := by
  simp only [addCode, withoutReturns, Text.withoutReturns_append]
  rfl

end Accumulator

/-- The run. The induction is on the lines, with any state and anything
gathered before them. -/
theorem walk_trailed (hsymbols : ∀ symbol ∈ profile.symbols, '\r' ∉ symbol) (acc : Accumulator)
    (state : Docblock) (h : List.Forall₂ Trailed lines lines') :
    (walk profile acc state lines').withoutReturns
      = walk profile acc.withoutReturns state lines := by
  induction h generalizing acc state with
  | nil => rfl
  | @cons line trailed lines lines' hline hlines ih =>
    rw [walk, walk]
    rcases classify?_cases hsymbols hline with
      ⟨hcode, hcode'⟩ | ⟨kind, rest, rest', hdoc, hdoc', hrest⟩
    · rw [hcode, hcode']
      have hrun := ih (acc.addCode trailed) state
      rw [Accumulator.addCode_withoutReturns, hline.withoutReturns_eq] at hrun
      exact hrun
    · rw [hdoc, hdoc']
      obtain ⟨htext, hnext⟩ := contribute_trailed hsymbols state kind hrest hlines
      have hrun := ih (acc.addDocs (contribute profile state kind rest' lines').1)
        (contribute profile state kind rest' lines').2
      rw [Accumulator.addDocs_withoutReturns, htext] at hrun
      refine hrun.trans ?_
      rw [hnext]

/-! ### The sections -/

/-- The first line names an interpreter in both texts or in neither. -/
theorem forall₂_sourceLines {source : Text} (h : '\r' ∉ source) :
    List.Forall₂ Trailed (sourceLines source) (sourceLines (Text.withReturns source)) := by
  have hlead : '\r' ∉ "#!".toList := by decide
  have hlines := Text.forall₂_lines h
  rw [sourceLines, sourceLines]
  generalize Text.lines source = lines, Text.lines (Text.withReturns source) = lines' at hlines ⊢
  cases hlines with
  | nil => exact .nil
  | @cons line trailed lines lines' hline hlines =>
    rcases hline.after?_cases hlead with ⟨hnone, hnone'⟩ | ⟨_, _, hsome, hsome', -⟩
    · simp only [Text.begins, hnone, hnone']
      exact .cons hline hlines
    · simp only [Text.begins, hsome, hsome']
      exact hlines

/-- **Line endings do not matter.** Take a source file without carriage
returns and put one in front of every line feed. If no comment symbol has
a carriage return in it, the file has the same sections as before, once
the carriage returns in their documentation and code are deleted. -/
theorem segment_withReturns (profile : Profile) (source : Text)
    (hsymbols : ∀ symbol ∈ profile.symbols, '\r' ∉ symbol) (hsource : '\r' ∉ source) :
    (profile.segment (Text.withReturns source)).map Section.withoutReturns
      = profile.segment source := by
  have hwalk := walk_trailed hsymbols .empty .outside (forall₂_sourceLines hsource)
  have hflush := (walk profile .empty .outside
    (sourceLines (Text.withReturns source))).flush_withoutReturns
  rw [hwalk] at hflush
  exact congrArg Accumulator.sections hflush

/-- A script in which words that are looked for stand right before the
ends of lines. -/
def taggedText : Text :=
  "#!/usr/bin/php\n/**\n * @param int\n * @return\n */\nfunction f (x) {}\n//\n\nf(1);"

theorem segment_withReturns_taggedText :
    (∀ symbol ∈ slashLanguage.symbols, '\r' ∉ symbol) ∧ '\r' ∉ taggedText ∧
    (slashLanguage.segment (Text.withReturns taggedText)).map Section.withoutReturns
      = [⟨0, "**\x60 f\x60**\n\n Takes \x60int\x60\n. Returns \n.", "function f (x) {}\n"⟩,
        ⟨1, "\n", "\nf(1);\n"⟩] := by
  have hsymbols : ∀ symbol ∈ slashLanguage.symbols, '\r' ∉ symbol := by decide
  have hsource : '\r' ∉ taggedText := by decide
  refine ⟨hsymbols, hsource, ?_⟩
  rw [segment_withReturns slashLanguage taggedText hsymbols hsource]
  decide +kernel

end Segment

end Marginalia
