import Marginalia.Section
import Marginalia.Segment.Tag
import Marginalia.Segment.Signature

/-!
# `Marginalia.Segment.Basic`: a source file as sections

Segmentation is one pass over the lines. It carries two things. The
`Docblock` says what the lines so far mean for the next one; it is how
tags become prose and openings become labels. The `Accumulator` holds the
sections that are finished and the texts of the one being filled. That
one is finished when documentation follows code, and once more when the
lines have ended.
-/

set_option autoImplicit false

namespace Marginalia

namespace Segment

open Marginalia.Language (Profile)

/-- What the lines so far say about the next one: whether it lies inside
a docblock, and the kind of the tag right before it. -/
structure Docblock where
  inside : Bool
  previous : Option TagKind
deriving DecidableEq

namespace Docblock

/-- Outside every docblock. -/
def outside : Docblock := ⟨false, none⟩

/-- The text of a documentation line and the state after it, before its
kind is looked at. Only inside a docblock are tags read. -/
def readTag (state : Docblock) (rest : Text) : Text × Docblock :=
  if state.inside then
    match Tag.ofText? rest with
    | some tag => (Tag.lead state.previous tag.kind ++ tag.render, ⟨true, some tag.kind⟩)
    | none => (rest, ⟨true, none⟩)
  else (rest, state)

end Docblock

/-- What a documentation line contributes and the state after it;
`following` are the lines behind it. -/
def contribute (profile : Profile) (state : Docblock) (kind : DocLine) (rest : Text)
    (following : List Text) : Text × Docblock :=
  let (text, next) := state.readTag rest
  if kind = .opening then
    match documented? profile following with
    | some name => (label name, ⟨true, next.previous⟩)
    | none => (text ++ ['\n'], ⟨true, next.previous⟩)
  else if closes kind rest then (".", .outside)
  else (text ++ ['\n'], next)

/-- The sections that are finished, and the documentation and the code of
the one being filled. `hasCode` says whether it has a line of code yet. -/
structure Accumulator where
  sections : List Section
  docs : Text
  code : Text
  hasCode : Bool

namespace Accumulator

/-- Nothing yet. -/
def empty : Accumulator :=
  ⟨[], [], [], false⟩

/-- Finishes the section being filled. Its number is how many there were
before it. -/
def flush (acc : Accumulator) : Accumulator :=
  ⟨acc.sections ++ [⟨acc.sections.length, acc.docs, acc.code⟩], [], [], false⟩

/-- Adds a line of code. -/
def addCode (acc : Accumulator) (line : Text) : Accumulator :=
  { acc with code := acc.code ++ line ++ ['\n'], hasCode := true }

/-- Makes room for documentation: where there is code, a new section
begins. -/
def turn (acc : Accumulator) : Accumulator :=
  if acc.hasCode then acc.flush else acc

/-- Adds what a line of documentation contributes. -/
def addDocs (acc : Accumulator) (text : Text) : Accumulator :=
  { acc.turn with docs := acc.turn.docs ++ text }

end Accumulator

/-- Walks over the lines and adds each to the section that it belongs
to. -/
def walk (profile : Profile) : Accumulator → Docblock → (lines : List Text) → Accumulator
  | acc, _, [] => acc
  | acc, state, line :: following =>
    match classify? profile line with
    | none => walk profile (acc.addCode line) state following
    | some (kind, rest) =>
      let (text, next) := contribute profile state kind rest following
      walk profile (acc.addDocs text) next following

/-- The lines of a file that count. A first line that names an
interpreter does not. -/
def sourceLines (source : Text) : List Text :=
  match Text.lines source with
  | [] => []
  | first :: rest => if Text.begins "#!" first then rest else first :: rest

end Segment

/-- The sections of a source file. There is always at least one. -/
def Language.Profile.segment (profile : Language.Profile) (source : Text) : List Section :=
  (Segment.walk profile .empty .outside (Segment.sourceLines source)).flush.sections

end Marginalia
