import LessonAudit.Json.Value
import LessonAudit.Path
set_option autoImplicit false

namespace LessonAudit

open Json (Written Number)

structure Location where
  file : Path
  line : Option Nat
deriving DecidableEq, Repr

structure Finding where
  location : Option Location
  message : String
deriving DecidableEq, Repr

namespace Location

def whole (file : Path) : Location :=
  ⟨file, none⟩

def ofLine (file : Path) (line : Nat) : Location :=
  ⟨file, some line⟩

def text (l : Location) : String :=
  match l.line with
  | some line => l.file.text ++ ":" ++ toString line
  | none => l.file.text

def written (l : Location) : Written :=
  .record
    (("file", .text l.file.text) ::
      match l.line with
      | some line => [("line", .number (.natural line))]
      | none => [])

end Location

namespace Finding

def text (f : Finding) : String :=
  match f.location with
  | some place => place.text ++ ": " ++ f.message
  | none => f.message

def written (f : Finding) : Written :=
  .record
    [("location", match f.location with
        | some place => place.written
        | none => .null),
      ("message", .text f.message)]

def lines (findings : List Finding) : String :=
  String.join (findings.map fun f => f.text ++ "\n")

def exitStatus (findings : List Finding) : Nat :=
  if findings.isEmpty then 0 else 1

end Finding
end LessonAudit
