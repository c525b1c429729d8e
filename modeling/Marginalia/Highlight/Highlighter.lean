import Marginalia.Highlight.Error
import Marginalia.Highlight.Event
import Marginalia.Text.Blank

/-!
# `Marginalia.Highlight.Highlighter`: what turns code into markup

A highlighter is a local command, a remote service, a function within
the program, or one of these with a fallback. The fallback is asked only
where the first is not available; every other result stands.
-/

set_option autoImplicit false

namespace Marginalia.Highlight

/-- Something that turns code into markup. -/
inductive Highlighter
  | command (tool : Text) (limit : Duration)
  | service (url : Text) (limit : Duration)
  | given (name label : Text) (answer : (lexer code : Text) → Except Error Text)
  | withFallback (primary fallback : Highlighter)

/-! ### Local commands -/

/-- What a complaint says when the tool itself is missing. -/
def missingPhrases : List Text :=
  ["command not found", "no such file or directory", "is not recognized"]

/-- Whether a complaint says that the tool itself is missing, in upper or
lower case. Only ASCII letters are lowered. Of all others the Kelvin sign
becomes a `k` and the capital I with a dot an `i` with the dot behind it,
and no phrase has either. -/
def reportsMissing (complaint : Text) : Bool :=
  missingPhrases.any fun phrase => Text.mentions phrase (complaint.map Char.toLower)

/-- The exit code of a shell that does not find a command. -/
def notFoundCode : Nat := 127

/-- Whether a run that did not succeed means that the tool is missing. -/
def endedMissing (status : ExitStatus) (complaint : Text) : Bool :=
  status = .exited notFoundCode || reportsMissing complaint

/-- What a run of the command `tool` means. -/
def Run.result (tool : Text) (limit : Duration) : Run → Except Error Text
  | .notFound => .error (.unavailable tool)
  | .refused reason => .error (.system reason)
  | .overdue => .error (.timeout tool limit)
  | .ended status output complaint unread =>
    if status.success then
      match unread with
      | some reason => .error (.system reason)
      | none => .ok (Utf8.decodeLossy output)
    else
      let complaint := Utf8.decodeLossy complaint
      if endedMissing status complaint then .error (.unavailable tool)
      else .error (.failed tool status (Text.trim complaint))

/-- The part of the program that runs local commands, in records. -/
def commandSource : Text := "phocco_core::highlight::pygments"

/-- What is said of a run of the command `tool`. -/
def Run.records (tool lexer : Text) : Run → List Log.Record
  | .notFound => []
  | .refused _ => []
  | .overdue => [spawned, ⟨.warn, commandSource, "highlighter timed out, killing it",
      [("command", .bare tool)]⟩]
  | .ended .. => [spawned]
where
  /-- The record of a command that was started. -/
  spawned : Log.Record :=
    ⟨.debug, commandSource, "spawned highlighter",
      [("command", .bare tool), ("lexer", .quoted lexer)]⟩

/-- Runs the command `tool` on the code. -/
def runCommand (outside : Outside) (tool : Text) (limit : Duration) (lexer code : Text) :
    Traced (Except Error Text) :=
  let invocation : Invocation := ⟨tool, ["-l", lexer, "-f", "html"], code, limit⟩
  let run := outside.run invocation
  ⟨run.result tool limit, .ran invocation :: (run.records tool lexer).map .logged⟩

/-! ### The remote service -/

/-- What a reply of the service at `url` means. -/
def Reply.result (url : Text) (limit : Duration) : Reply → Except Error Text
  | .overdue => .error (.timeout url limit)
  | .unreachable => .error .service
  | .answered status body =>
    if 200 ≤ status && status < 300 then .ok (Utf8.decodeLossy body)
    else .error (.refused status)

/-- The part of the program that talks to the service, in records. -/
def serviceSource : Text := "phocco_core::highlight::remote"

/-- Sends the code to the service at `url`. -/
def askService (outside : Outside) (url : Text) (limit : Duration) (lexer code : Text) :
    Traced (Except Error Text) :=
  let request : Request := ⟨url, lexer, code, limit⟩
  let posting : Log.Record :=
    ⟨.debug, serviceSource, "posting to highlighting service",
      [("url", .bare url), ("lexer", .quoted lexer), ("bytes", .number (Utf8.size code))]⟩
  ⟨(outside.post request).result url limit, [.logged posting, .posted request]⟩

/-! ### Fallbacks -/

/-- The part of the program that chooses between highlighters, in
records. -/
def fallbackSource : Text := "phocco_core::highlight::fallback"

namespace Highlighter

/-- The name of a highlighter in records: that of the one asked first. -/
def name : Highlighter → Text
  | .command tool _ => tool
  | .service url _ => url
  | .given name _ _ => name
  | .withFallback primary _ => primary.name

/-- What is said where the first highlighter is not available. -/
def usingFallback (tool fallback : Text) : Log.Record :=
  ⟨.warn, fallbackSource, "highlighter not available, using fallback",
    [("tool", .bare tool), ("fallback", .quoted fallback)]⟩

/-- What is said where the first highlighter succeeds. -/
def usedPrimary (primary : Text) : Log.Record :=
  ⟨.info, fallbackSource, "highlighted locally", [("highlighter", .quoted primary)]⟩

/-- Turns code into markup. -/
def run (outside : Outside) (lexer code : Text) : Highlighter → Traced (Except Error Text)
  | .command tool limit => runCommand outside tool limit lexer code
  | .service url limit => askService outside url limit lexer code
  | .given _ label answer => ⟨answer lexer code, [.asked label lexer code]⟩
  | .withFallback primary fallback =>
    let first := primary.run outside lexer code
    match first.result with
    | .error (.unavailable tool) =>
      (fallback.run outside lexer code).after
        (first.events ++ [.logged (usingFallback tool fallback.name)])
    | .error e => ⟨.error e, first.events⟩
    | .ok markup => ⟨.ok markup, first.events ++ [.logged (usedPrimary primary.name)]⟩

end Highlighter

end Marginalia.Highlight
