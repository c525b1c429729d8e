import Marginalia.Log.Record
import Marginalia.System.Duration
import Marginalia.System.ExitStatus
import Marginalia.System.OsError
import Marginalia.Text.Utf8

/-!
# `Marginalia.Highlight.Event`: what highlighting asks of the world

Local commands and the remote service lie outside the library. How they
behave is given by an `Outside`, and everything that is asked of them is
noted as an `Event`, so that what leaves the machine can be read off the
result of a function.
-/

set_option autoImplicit false

namespace Marginalia.Highlight

/-- A local command to be run. -/
structure Invocation where
  command : Text
  arguments : List Text
  input : Text
  limit : Duration
deriving DecidableEq

/-- What running a command came to. A command that ended may have refused
part of its input. -/
inductive Run
  | notFound
  | refused (reason : OsError)
  | overdue
  | ended (status : ExitStatus) (output complaint : Bytes) (unread : Option OsError)
deriving DecidableEq

/-- A request to the remote service. -/
structure Request where
  url : Text
  lexer : Text
  code : Text
  limit : Duration
deriving DecidableEq

/-- What a request came to. -/
inductive Reply
  | overdue
  | unreachable
  | answered (status : Nat) (body : Bytes)
deriving DecidableEq

/-- How local commands and the remote service behave while one file is
documented. They may behave differently for the next one, so a run takes
one of these for every file. `opens` says whether the system lets requests
with a limit be made at all, which it nearly always does. -/
structure Outside where
  run : Invocation → Run
  post : Request → Reply
  opens : (limit : Duration) → Bool := fun _ => true

/-- Where no command is installed and no service is reached. -/
def Outside.none : Outside where
  run _ := .notFound
  post _ := .unreachable

/-- Something done on the way to a result. -/
inductive Event
  | logged (record : Log.Record)
  | ran (invocation : Invocation)
  | posted (request : Request)
  | asked (label lexer code : Text)
deriving DecidableEq

/-- A result with what was done on the way to it. -/
structure Traced (α : Type) where
  result : α
  events : List Event

namespace Traced

variable {α β : Type}

/-- The result changed by `f`; nothing more is done. -/
def map (f : α → β) (t : Traced α) : Traced β :=
  ⟨f t.result, t.events⟩

/-- The result with `events` done before. -/
def after (events : List Event) (t : Traced α) : Traced α :=
  ⟨t.result, events ++ t.events⟩

end Traced

end Marginalia.Highlight
