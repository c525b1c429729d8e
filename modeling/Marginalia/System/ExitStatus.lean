import Marginalia.Text.Basic

/-!
# `Marginalia.System.ExitStatus`: how a process ended

The system reports the end of a process as one word of 32 bits, which
packs an exit code or a signal. `ofWord` takes it apart.
-/

set_option autoImplicit false

namespace Marginalia

/-- How a process ended, or that it was only stopped. -/
inductive ExitStatus
  | exited (code : Nat)
  | killed (signal : Nat) (dumped : Bool)
  | stopped (signal : Nat)
  | continued
  | other (word : UInt32)
deriving DecidableEq

namespace ExitStatus

/-- The meaning of a status word: the low seven bits are 0 for an exit,
127 for a process that still lives, and a signal otherwise. -/
def ofWord (word : UInt32) : ExitStatus :=
  let n := word.toNat
  let low := n % 128
  if low = 0 then .exited (n / 256 % 256)
  else if low ≠ 127 then .killed low (n / 128 % 2 = 1)
  else if n % 256 = 127 then .stopped (n / 256 % 256)
  else if n = 0xFFFF then .continued
  else .other word

/-- Whether the process exited with code 0. -/
def success (status : ExitStatus) : Bool :=
  status = .exited 0

/-- The names of the signals from 1 on. -/
def signalNames : List Text :=
  ["SIGHUP", "SIGINT", "SIGQUIT", "SIGILL", "SIGTRAP", "SIGABRT", "SIGBUS", "SIGFPE",
   "SIGKILL", "SIGUSR1", "SIGSEGV", "SIGUSR2", "SIGPIPE", "SIGALRM", "SIGTERM", "SIGSTKFLT",
   "SIGCHLD", "SIGCONT", "SIGSTOP", "SIGTSTP", "SIGTTIN", "SIGTTOU", "SIGURG", "SIGXCPU",
   "SIGXFSZ", "SIGVTALRM", "SIGPROF", "SIGWINCH", "SIGIO", "SIGPWR", "SIGSYS"]

/-- A signal by number, with its name if it has one. -/
def signalText (signal : Nat) : Text :=
  match signalNames[signal - 1]? with
  | some name => if signal = 0 then Text.ofNat signal else Text.ofNat signal ++ " (" ++ name ++ ")"
  | none => Text.ofNat signal

/-- A word of 32 bits as a signed number. -/
def signedText (word : UInt32) : Text :=
  if word.toNat < 0x80000000 then Text.ofNat word.toNat
  else '-' :: Text.ofNat (0x100000000 - word.toNat)

/-- The wording of a status. -/
def message : ExitStatus → Text
  | .exited code => "exit status: " ++ Text.ofNat code
  | .killed signal dumped =>
    "signal: " ++ signalText signal ++ (if dumped then " (core dumped)" else "")
  | .stopped signal => "stopped (not terminated) by signal: " ++ signalText signal
  | .continued => "continued (WIFCONTINUED)"
  | .other word =>
    "unrecognised wait status: " ++ signedText word ++ " 0x" ++ Nat.toDigits 16 word.toNat

end ExitStatus

end Marginalia
