set_option autoImplicit false

namespace LessonAudit

inductive Ending where
  | exited (status : Nat)
  | killed (signal : Nat)
deriving DecidableEq, Repr

namespace Ending

def signalNames : List String :=
  ["HUP", "INT", "QUIT", "ILL", "TRAP", "ABRT", "BUS", "FPE", "KILL", "USR1", "SEGV", "USR2",
    "PIPE", "ALRM", "TERM", "STKFLT", "CHLD", "CONT", "STOP", "TSTP", "TTIN", "TTOU", "URG",
    "XCPU", "XFSZ", "VTALRM", "PROF", "WINCH", "IO", "PWR", "SYS"]

def quietSignals : List String := ["CHLD", "CONT", "URG", "WINCH"]

def pipeSignal : Nat := 13

def signalName? (signal : Nat) : Option String :=
  match signal with
  | 0 => none
  | n + 1 => signalNames[n]?

def isSuccess (e : Ending) : Bool :=
  e == .exited 0

def status : Ending → Nat
  | exited status => status
  | killed signal => 128 + signal

theorem status_eq_zero_iff (e : Ending) : e.status = 0 ↔ e.isSuccess = true := by
  cases e <;> simp [status, isSuccess]

def text : Ending → String
  | exited status => "exit status: " ++ toString status
  | killed signal =>
      "signal: " ++ toString signal ++
        match signalName? signal with
        | some name => " (SIG" ++ name ++ ")"
        | none => ""

end Ending
end LessonAudit
