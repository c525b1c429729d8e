import Marginalia.Markdown.Inline.Basic
import Marginalia.Text.Blank
import Marginalia.Unicode.Punctuation

/-!
# `Marginalia.Markdown.Inline.Emphasis`: runs of stars and underscores

A run of stars or underscores may open emphasis, close it, or both,
depending on the characters around it. Pieces are read from left to
right. A run that may close looks back for the nearest run that it can
close; what stands between the two becomes emphasis, and both runs lose
the marks that were used. Marks that find no partner are text.
-/

set_option autoImplicit false

namespace Marginalia.Markdown

/-- A run of marks: how many are left, how many there were, and what it
may do. -/
structure Run where
  mark : Char
  left : Nat
  length : Nat
  canOpen : Bool
  canClose : Bool

namespace Run

/-- A run of `length` marks between two characters. -/
def between (mark before after : Char) (length : Nat) : Run :=
  let beforeMark := Unicode.isPunctuation before
  let afterMark := Unicode.isPunctuation after
  let opens := !isBlank after && (!afterMark || isBlank before || beforeMark)
  let closes := !isBlank before && (!beforeMark || isBlank after || afterMark)
  if mark = '_' then
    ⟨mark, length, length, opens && (!closes || beforeMark), closes && (!opens || afterMark)⟩
  else ⟨mark, length, length, opens, closes⟩

/-- The marks that are left, as text. -/
def asText (run : Run) : Inline :=
  .text (List.replicate run.left run.mark)

/-- Whether `opener` can be closed by `closer`. Where one of them may do
both, their lengths must not add up to a multiple of three, unless each
is one. -/
def opensFor (opener closer : Run) : Bool :=
  opener.canOpen && opener.mark = closer.mark
    && !((closer.canOpen || opener.canClose) && (opener.length + closer.length) % 3 = 0
      && !(opener.length % 3 = 0 && closer.length % 3 = 0))

end Run

/-- A piece of content while emphasis is not yet known. -/
inductive Piece
  | inline (inline : Inline)
  | run (run : Run)

/-- A run that may still open emphasis, and what follows it, last first. -/
structure Opener where
  run : Run
  content : List Inline

/-- What was read so far: the content before the first opener, last
first, and the openers, last first. -/
structure Emphasis where
  base : List Inline
  openers : List Opener

namespace Emphasis

/-- Adds a piece of content. -/
def add (e : Emphasis) (inline : Inline) : Emphasis :=
  match e.openers with
  | [] => { e with base := inline :: e.base }
  | top :: rest => { e with openers := { top with content := inline :: top.content } :: rest }

/-- The content of openers, last first, whose runs are text. -/
def flatten (openers : List Opener) : List Inline :=
  openers.flatMap fun o => o.content ++ [o.run.asText]

/-- The openers behind the nearest one for `closer`, that one, and those
before it. -/
def findOpener? (closer : Run) :
    (openers : List Opener) → Option (List Opener × Opener × List Opener)
  | [] => none
  | o :: rest =>
    if o.run.opensFor closer then some ([], o, rest)
    else (findOpener? closer rest).map fun (behind, found, before) => (o :: behind, found, before)

/-- Lets a run with `left` marks close what it can. What is left of it
opens emphasis or is text. -/
def close (e : Emphasis) (closer : Run) (left : Nat) : Emphasis :=
  match left, findOpener? closer e.openers with
  | 0, _ => e
  | left + 1, none =>
    if closer.canOpen then { e with openers := ⟨{ closer with left := left + 1 }, []⟩ :: e.openers }
    else e.add ({ closer with left := left + 1 } : Run).asText
  | left + 1, some (behind, opener, before) =>
    let content := (flatten behind ++ opener.content).reverse
    let used := if 1 ≤ left && 2 ≤ opener.run.left then 2 else 1
    let node := if used = 2 then Inline.strong content else .emphasis content
    let remaining := opener.run.left - used
    let e : Emphasis :=
      if remaining = 0 then ({ e with openers := before } : Emphasis).add node
      else { e with openers := ⟨{ opener.run with left := remaining }, [node]⟩ :: before }
    close e closer (left + 1 - used)
termination_by left
decreasing_by all_goals (simp_wf; split <;> omega)

/-- Reads one piece. -/
def read (e : Emphasis) : Piece → Emphasis
  | .inline inline => e.add inline
  | .run run =>
    if run.canClose then e.close run run.left
    else if run.canOpen then { e with openers := ⟨run, []⟩ :: e.openers }
    else e.add run.asText

end Emphasis

/-- The content that pieces make. -/
def resolveEmphasis (pieces : List Piece) : List Inline :=
  let e := pieces.foldl Emphasis.read ⟨[], []⟩
  (Emphasis.flatten e.openers ++ e.base).reverse

end Marginalia.Markdown
