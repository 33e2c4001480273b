import LessonAudit.Program.Shell.Redirection
set_option autoImplicit false

namespace LessonAudit.Program

inductive LaunchFault where
  | walk (fault : WalkFault)
  | denied
  | format
deriving DecidableEq, Repr

namespace LaunchFault

def text : LaunchFault → String
  | walk fault => fault.text
  | denied => systemError "Permission denied" 13
  | format => systemError "Exec format error" 8

def reason : LaunchFault → String
  | walk .manyLinks => WalkFault.manyLinks.reason
  | walk _ => "not found"
  | denied => "Permission denied"
  | format => "Exec format error"

def toolReason : LaunchFault → String
  | walk fault => fault.reason
  | denied => "Permission denied"
  | format => "Exec format error"

def status : LaunchFault → Nat
  | walk _ => 127
  | _ => 126

end LaunchFault

namespace Shell

open Script (Command)

abbrev Environment := List (Octets × Octets)

structure Runner where
  run : Bool → Command → Act Unit
  apart : Act Unit → Act Ending
  program : Environment → Octets → Octets → List Octets → Act (Except LaunchFault Ending)
  direct : Environment → Octets → Octets → List Octets → Act (Except LaunchFault Ending)
  tested : Bool

namespace Runner

def linesFrom (run : Command → Act Unit) : Nat → Bool → Script.Source → Act Bool
  | 0, ran, _ => return ran
  | fuel + 1, ran, source => do
      let s ← get
      match { source with texts := s.texts, aliases := s.aliases }.readLine with
      | .error fault =>
          set { s with line := fault.line }
          Act.fault fault.message.toList
      | .ok none => return ran
      | .ok (some line) =>
          modify fun s => { s with texts := line.source.texts }
          let ran := ran || line.command.isSome
          match line.command with
          | some c => run c
          | none => pure ()
          if line.atEnd then return ran else linesFrom run fuel ran line.source

def script (r : Runner) (tested : Bool) (text : Octets) : Act Unit := do
  let source : Script.Source := ⟨text, none, 1, none, [], #[], [], []⟩
  let ran ← linesFrom (r.run tested) (text.length + 1) false source
  if ran then return () else Act.setStatus 0

end Runner

def signalText (number : Nat) : String :=
  let texts :=
    ["Hangup", "Interrupt", "Quit", "Illegal instruction", "Trace/breakpoint trap", "Aborted",
      "Bus error", "Floating point exception", "Killed", "User defined signal 1",
      "Segmentation fault", "User defined signal 2", "Broken pipe", "Alarm clock", "Terminated",
      "Stack fault", "Child exited", "Continued", "Stopped (signal)", "Stopped",
      "Stopped (tty input)", "Stopped (tty output)", "Urgent I/O condition",
      "CPU time limit exceeded", "File size limit exceeded", "Virtual timer expired",
      "Profiling timer expired", "Window changed", "I/O possible", "Power failure",
      "Bad system call"]
  match number with
  | 0 => ""
  | n + 1 => texts.getD n ("Unknown signal " ++ toString number)

def tellEnding (e : Ending) : Act Unit :=
  match e with
  | .killed number =>
      if number = 2 || number = 13 then return ()
      else Act.write 2 ((signalText number).toList ++ ['\n'])
  | .exited _ => return ()

def noteEnding (e : Ending) : Act Unit := do
  tellEnding e
  Act.setStatus e.status

def State.folders (s : State) : List Octets :=
  Octets.pieces ':' ((s.value? "PATH".toList).getD [])

def searchIn (tree : FileTree) (name : Octets) : List Octets → Bool → Except LaunchFault Octets
  | [], denied => .error (if denied then .denied else .walk .missing)
  | folder :: more, denied =>
      let path := if folder.isEmpty then name else folder ++ '/' :: name
      match tree.find (pathOf path) with
      | .ok (_, .tool _) | .ok (_, .file _ true) => .ok path
      | .ok _ => searchIn tree name more true
      | .error _ => searchIn tree name more denied

def State.locate (s : State) (name : Octets) : Except LaunchFault Octets :=
  if name.contains '/' then .ok name else searchIn s.machine.tree name s.folders false

end Shell
end LessonAudit.Program
