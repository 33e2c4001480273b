import LessonAudit.Event
import LessonAudit.Finding
set_option autoImplicit false

namespace LessonAudit

structure Journal where
  findings : List Finding
  events : List Event
deriving Repr

namespace Journal

open Json (Value)

def empty : Journal := ⟨[], []⟩

def ofFindings (findings : List Finding) : Journal :=
  ⟨findings, []⟩

def add (j : Journal) (location : Option Location) (message : String) : Journal :=
  { j with findings := j.findings ++ [⟨location, message⟩] }

def check (j : Journal) (holds : Bool) (location : Option Location) (message : String) : Journal :=
  if holds then j else j.add location message

def log (j : Journal) (event : Event) : Journal :=
  { j with events := j.events ++ [event] }

def shown : Value → String
  | .text s => s
  | other => other.compactText

def checkField (j : Journal) (location : Option Location) (name : String) (members : Dict Value)
    (field expected : String) : Journal :=
  match members.get? field with
  | none => j.add location (name ++ " does not contain " ++ field)
  | some actual =>
      let holds :=
        match actual with
        | .text s => s == expected
        | _ => false
      j.check holds location (name ++ " " ++ field ++ " is " ++ shown actual ++ " not " ++ expected)

def isClean (j : Journal) : Bool :=
  j.findings.isEmpty

def exitStatus (j : Journal) : Nat :=
  Finding.exitStatus j.findings

def report (j : Journal) : String × Nat :=
  (Finding.lines j.findings, j.exitStatus)

@[simp] theorem findings_add (j : Journal) (location : Option Location) (message : String) :
    (j.add location message).findings = j.findings ++ [⟨location, message⟩] := rfl

@[simp] theorem events_add (j : Journal) (location : Option Location) (message : String) :
    (j.add location message).events = j.events := rfl

@[simp] theorem findings_log (j : Journal) (event : Event) :
    (j.log event).findings = j.findings := rfl

@[simp] theorem events_log (j : Journal) (event : Event) :
    (j.log event).events = j.events ++ [event] := rfl

theorem findings_check (j : Journal) (holds : Bool) (location : Option Location)
    (message : String) :
    (j.check holds location message).findings =
      j.findings ++ if holds then [] else [⟨location, message⟩] := by
  cases holds <;> simp [check]

end Journal
end LessonAudit
