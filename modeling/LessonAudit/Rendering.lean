import LessonAudit.Ending
import LessonAudit.Libraries
import LessonAudit.Text.Blank
import LessonAudit.Text.Utf8
import LessonAudit.Tree.Decode
set_option autoImplicit false

namespace LessonAudit

open LessonAudit.Tree (Node)

inductive RenderError where
  | spawn (program reason : String)
  | io (reason : String)
  | failed (status stderr : String)
  | invalidEncoding
  | tree (fault : Json.Fault)
deriving DecidableEq, Repr

abbrev Renderer := String → Except RenderError Node

namespace RenderError

def message [Libraries] : RenderError → String
  | spawn program reason => "Failed to start renderer " ++ program ++ ": " ++ reason
  | io reason => "Renderer I/O failed: " ++ reason
  | failed status stderr => "Renderer exited with " ++ status ++ ": " ++ stderr
  | invalidEncoding => "Renderer output is not valid UTF-8"
  | tree fault => "Malformed document tree: " ++ Libraries.jsonFault fault

end RenderError

def Renderer.ofTreeText (text : String) : Except RenderError Node :=
  match Node.ofText? text with
  | .ok n => .ok n
  | .error fault => .error (.tree fault)

structure Outcome where
  ending : Ending
  stdout : List UInt8
  stderr : List UInt8
deriving DecidableEq, Repr

/-- The tree that a renderer gave. How it ended is looked at before its output. -/
def Outcome.tree (o : Outcome) : Except RenderError Node :=
  if o.ending.isSuccess then
    match Text.Utf8.decode? o.stdout with
    | none => .error .invalidEncoding
    | some text => Renderer.ofTreeText text
  else
    .error (.failed o.ending.text
      (String.ofList (Text.trim (Text.Utf8.decodeLossy o.stderr).toList)))

end LessonAudit
