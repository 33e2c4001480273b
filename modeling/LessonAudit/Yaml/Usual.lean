import LessonAudit.Libraries
import LessonAudit.Yaml.Document
set_option autoImplicit false

namespace LessonAudit

def Json.Fault.message : Json.Fault → String
  | malformed => "the text is not JSON"
  | truncated => "the text ends too early"
  | misshapen => "a value has not the shape of a node"

instance usualLibraries : Libraries where
  yaml text := (Yaml.value? text).mapError Yaml.Fault.message
  jsonFault := Json.Fault.message

end LessonAudit
