import LessonAudit.Libraries
import LessonAudit.Text.Blank
set_option autoImplicit false

namespace LessonAudit.Header

open Json (Value)

def mark : List Char := ['-', '-', '-']

def cutAtMark : List Char → Option (List Char × List Char)
  | [] => none
  | '-' :: '-' :: '-' :: rest => some ([], rest)
  | c :: rest => (cutAtMark rest).map fun (before, after) => (c :: before, after)

structure Split where
  raw : Option String
  lines : Nat
  body : String
deriving DecidableEq, Repr

def split (text : String) : Split :=
  match cutAtMark text.toList with
  | none => ⟨none, 0, text⟩
  | some (_, rest) =>
      match cutAtMark rest with
      | none => ⟨none, 0, text⟩
      | some (raw, body) => ⟨some (String.ofList raw), raw.count '\n', String.ofList body⟩

inductive Fault where
  | yaml (complaint : String)
  | notMapping (kind : Json.Kind)
deriving DecidableEq, Repr

def kindText : Json.Kind → String
  | .null => "null"
  | .flag => "a boolean"
  | .number => "a number"
  | .text => "a string"
  | .list => "a sequence"
  | .record => "a mapping"

def Fault.message : Fault → String
  | yaml complaint => "Unable to parse YAML header: " ++ complaint
  | notMapping kind => "YAML header is " ++ kindText kind ++ ", not a mapping"

/-- The entries of a header. A header that is blank or null is as good as none. -/
def metadata? [Libraries] (raw : String) : Except Fault (Option (Dict Value)) :=
  if raw.toList.all Text.isBlank then .ok none
  else
    match Libraries.yaml raw with
    | .error complaint => .error (.yaml complaint)
    | .ok .null => .ok none
    | .ok (.record members) => .ok (some members)
    | .ok other => .error (.notMapping other.written.kind)

end LessonAudit.Header
