import LessonAudit.Json.Reader
import LessonAudit.Json.Value
set_option autoImplicit false

namespace LessonAudit

/-- What is left to libraries: the reader of YAML, with the text of its complaint, and the texts in
which the reader of JSON complains. -/
class Libraries where
  yaml : String → Except String Json.Value
  jsonFault : Json.Fault → String

end LessonAudit
