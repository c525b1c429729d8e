import Marginalia.Disk.Basic
import Marginalia.Documenter.Basic

/-!
# `Marginalia.Documenter.Publish`: from a source file to a page file

The file is read only if its language is known, and nothing is written
before its page is complete.
-/

set_option autoImplicit false

namespace Marginalia.Documenter

open Highlight (Outside Traced)

variable {m : Type → Type} [Monad m] [Disk m]

/-- What is said of a page that has been written. -/
def generated (source target : Path) : Log.Record :=
  ⟨.info, recordSource, "generated",
    [("file", .bare source.text), ("output", .bare target.text)]⟩

/-- Writes the page of a source to its place, which is the result. -/
def save (documenter : Documenter) (source : Path) (page : Text) :
    m (Traced (Except Error Path)) := do
  match ← Disk.makeDirectories documenter.output with
  | .error reason => return ⟨.error (.unwritable documenter.output reason), []⟩
  | .ok _ =>
    let target := Page.location documenter.output source
    match ← Disk.writeText target page with
    | .error reason => return ⟨.error (.unwritable target reason), []⟩
    | .ok _ => return ⟨.ok target, [.logged (generated source target)]⟩

/-- Reads a source file in the language of `profile` and writes its
page. -/
def publishIn (documenter : Documenter) (outside : Outside) (profile : Language.Profile)
    (path : Path) : m (Traced (Except Error Path)) := do
  match ← Disk.readText path with
  | .error reason => return ⟨.error (.unreadable path reason), []⟩
  | .ok source =>
    let drawn := documenter.pageIn outside profile path source
    match drawn.result with
    | .error e => return ⟨.error e, drawn.events⟩
    | .ok page => return (← documenter.save path page).after drawn.events

/-- Reads a source file and writes its page, whose path is the result. -/
def publish (documenter : Documenter) (outside : Outside) (path : Path) :
    m (Traced (Except Error Path)) :=
  match documenter.registry.resolve path with
  | .error reason => return ⟨.error (.language reason), []⟩
  | .ok profile => documenter.publishIn outside profile path

end Marginalia.Documenter
