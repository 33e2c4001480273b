import LessonAudit.Dict
import LessonAudit.Json.Written
set_option autoImplicit false

namespace LessonAudit.Json

inductive Value where
  | null
  | flag (value : Bool)
  | number (value : Number)
  | text (value : String)
  | list (items : List Value)
  | record (members : List (String × Value))
deriving Repr

mutual

def Written.value : Written → Value
  | .null => .null
  | .flag b => .flag b
  | .number n => .number n
  | .text s => .text s
  | .list items => .list (valueItems items)
  | .record members => .record (valueMembers members [])

def Written.valueItems : List Written → List Value
  | [] => []
  | item :: more => item.value :: valueItems more

def Written.valueMembers : List (String × Written) → Dict Value → Dict Value
  | [], found => found
  | (name, member) :: more, found => valueMembers more (found.insert name member.value)

end

mutual

def Value.written : Value → Written
  | .null => .null
  | .flag b => .flag b
  | .number n => .number n
  | .text s => .text s
  | .list items => .list (writtenItems items)
  | .record members => .record (writtenMembers members)

def Value.writtenItems : List Value → List Written
  | [] => []
  | item :: more => item.written :: writtenItems more

def Value.writtenMembers : List (String × Value) → List (String × Written)
  | [] => []
  | (name, member) :: more => (name, member.written) :: writtenMembers more

end

def Value.compactText (v : Value) : String :=
  v.written.compactText

end LessonAudit.Json
