import LessonAudit.Tree.Node
set_option autoImplicit false

namespace LessonAudit.Tree

open Json (Value)

inductive Record where
  | node (n : Node)
  | attributes (d : Dict String)
  | members (d : Dict Value)

inductive Field where
  | text (s : String)
  | number (n : Nat)
  | flag (b : Bool)
  | record (r : Record)

namespace Field

def ofValue? : Value → Option Field
  | .text s => some (.text s)
  | .number (.natural n) => some (.number n)
  | .number _ => none
  | .flag b => some (.flag b)
  | .record d => some (.record (.members d))
  | .null => none
  | .list _ => none

def text? : Field → Option String
  | .text s => some s
  | _ => none

def number? : Field → Option Nat
  | .number n => some n
  | _ => none

def record? : Field → Option Record
  | .record r => some r
  | _ => none

end Field

namespace Record

def field : Record → String → Option Field
  | .attributes d, name => (d.get? name).map .text
  | .members d, name => (d.get? name).bind Field.ofValue?
  | .node n, name =>
      if name = "type" then some (.text n.kind)
      else if name = "attr" then n.attr.map fun d => .record (.attributes d)
      else if name = "options" then n.options.map fun d => .record (.members d)
      else if name = "children" then none
      else (n.extra.get? name).bind Field.ofValue?

def follow (r : Record) : List String → Option Field
  | [] => some (.record r)
  | name :: more =>
      match r.field name with
      | none => none
      | some found =>
          match more, found with
          | [], _ => some found
          | _ :: _, .record inner => inner.follow more
          | _ :: _, _ => none

end Record
end LessonAudit.Tree
