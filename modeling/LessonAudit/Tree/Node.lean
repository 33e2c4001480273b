import LessonAudit.Json.Value
set_option autoImplicit false

namespace LessonAudit.Tree

open Json (Value Written Number)

structure Node where
  kind : String
  attr : Option (Dict String)
  options : Option (Dict Value)
  children : List Node
  extra : Dict Value
deriving Repr

instance : Inhabited Node := ⟨⟨"", none, none, [], []⟩⟩

def locationKey : String := "location"

def natural? : Value → Option Nat
  | .number (.natural n) => some n
  | _ => none

namespace Node

def ofKind (kind : String) : Node :=
  ⟨kind, none, none, [], []⟩

def withAttr (n : Node) (name value : String) : Node :=
  { n with attr := some ((n.attr.getD []).insert name value) }

def withLocation (n : Node) (line : Nat) : Node :=
  { n with options := some ((n.options.getD []).insert locationKey (.number (.natural line))) }

def withChild (n child : Node) : Node :=
  { n with children := n.children ++ [child] }

def attrValue (n : Node) (name : String) : Option String :=
  n.attr.bind fun attr => attr.get? name

def location (n : Node) : Option Nat :=
  n.options.bind fun options => (options.get? locationKey).bind natural?

def textMembers (d : Dict String) : List (String × Written) :=
  d.map fun (name, value) => (name, .text value)

mutual

def written : Node → Written
  | ⟨kind, attr, options, children, extra⟩ =>
      .record
        (("type", .text kind) ::
          ((match attr with
            | none => []
            | some d => [("attr", .record (textMembers d))]) ++
          (match options with
            | none => []
            | some d => [("options", .record (Value.writtenMembers d))]) ++
          (match children with
            | [] => []
            | child :: more => [("children", .list (child.written :: writtenChildren more))]) ++
          Value.writtenMembers extra))

def writtenChildren : List Node → List Written
  | [] => []
  | child :: more => child.written :: writtenChildren more

end

mutual

def preorder : Node → List Node
  | n@⟨_, _, _, children, _⟩ => n :: preorderAll children

def preorderAll : List Node → List Node
  | [] => []
  | child :: more => child.preorder ++ preorderAll more

end

end Node
end LessonAudit.Tree
