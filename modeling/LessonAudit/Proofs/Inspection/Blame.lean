import LessonAudit.Proofs.Inspection
set_option autoImplicit false

namespace LessonAudit

open Json (Value)
open LessonAudit.Tree (Node Pattern)

inductive Role.Blames : Role → Option (Dict Value) → String → Prop
  | unexpected {members : Dict Value} :
      Blames nonTemplated (some members) "Unexpected YAML header"
  | missing {role : Role} (templated : role ≠ nonTemplated) :
      Blames role none "Missing metadata entirely"
  | noLayout {role : Role} {members : Dict Value} {layout : String} (asked : role.Asks layout)
      (absent : members.get? "layout" = none) :
      Blames role (some members) "metadata does not contain layout"
  | otherLayout {role : Role} {members : Dict Value} {layout : String} {actual : Value}
      (asked : role.Asks layout) (present : members.get? "layout" = some actual)
      (differs : actual ≠ .text layout) :
      Blames role (some members)
        ("metadata layout is " ++ Journal.shown actual ++ " not " ++ layout)

namespace Tree.Node

def Unclassed (kind : String) (known : List String) (n : Node) : Prop :=
  n.kind = kind ∧ ∀ name ∈ known, ¬ n.HasClass name

instance (kind : String) (known : List String) (n : Node) : Decidable (n.Unclassed kind known) :=
  inferInstanceAs (Decidable (_ ∧ _))

def className (n : Node) : String :=
  match n.attr with
  | some attr => (attr.get? "class").getD "(none)"
  | none => "(none)"

def line? (n : Node) : Option Nat :=
  match n.options with
  | some options =>
      match options.get? "location" with
      | some (.number (.natural line)) => some line
      | _ => none
  | none => none

end Tree.Node

namespace Role

end Role

namespace Document

def blockFinding (d : Document) (kind : String) (n : Node) : Finding :=
  ⟨some ⟨d.path, n.line?.map (· + d.headerLines)⟩,
    "Unknown or missing " ++ kind ++ " type " ++ n.className⟩

def LinesFit (d : Document) : Prop :=
  ∀ n ∈ d.tree.preorder, ∀ line, n.OnLine line → line + d.headerLines < UInt64.size

def threeBlocks : Document where
  path := ⟨"l/setup.md"⟩
  metadata := some [("layout", .text "post")]
  headerLines := 2
  tree :=
    (Node.ofKind "root").withChild
      ((((Node.ofKind "blockquote").withAttr "class" "note").withLocation 3).withChild
        ((((Node.ofKind "blockquote").withAttr "class" "callout").withLocation 4).withChild
          ((Node.ofKind "codeblock").withLocation 5)))
    |>.withChild ((Node.ofKind "codeblock").withAttr "class" "output")

end Document
end LessonAudit
