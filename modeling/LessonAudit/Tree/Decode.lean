import LessonAudit.Json.Reader
import LessonAudit.Tree.Node
set_option autoImplicit false

namespace LessonAudit.Tree

open Json (Value Written Kind Schema Fault)

inductive Place where
  | node
  | nodes
  | text
  | attributes
  | options
  | free
deriving DecidableEq, Repr

def namedMembers : List String := ["type", "attr", "options", "children"]

def nodeMember (name : String) : Place :=
  match name with
  | "type" => .text
  | "attr" => .attributes
  | "options" => .options
  | "children" => .nodes
  | _ => .free

def nodeSchema : Schema Place where
  admits place kind :=
    match place with
    | .node => kind == .record
    | .nodes => kind == .list
    | .text => kind == .text
    | .attributes | .options => kind == .null || kind == .record
    | .free => true
  item place :=
    match place with
    | .nodes => .node
    | _ => .free
  member place name :=
    match place with
    | .node => nodeMember name
    | .attributes => .text
    | _ => .free
  once place name := place == .node && namedMembers.contains name
  needs place :=
    match place with
    | .node => ["type"]
    | _ => []

/-- What has been found of a node's members. The outer `Option`s tell whether the member came. -/
structure Found where
  kind : Option String
  attr : Option (Option (Dict String))
  options : Option (Option (Dict Value))
  children : Option (List Node)
  extra : Dict Value

def Found.nothing : Found := ⟨none, none, none, none, []⟩

def Found.node? (f : Found) : Option Node :=
  f.kind.map fun kind => ⟨kind, f.attr.join, f.options.join, f.children.getD [], f.extra⟩

def texts? : List (String × Written) → Dict String → Option (Dict String)
  | [], found => some found
  | (name, .text value) :: more, found => texts? more (found.insert name value)
  | _ :: _, _ => none

def attributes? : Written → Option (Option (Dict String))
  | .null => some none
  | .record members => (texts? members []).map some
  | _ => none

def options? : Written → Option (Option (Dict Value))
  | .null => some none
  | .record members => some (some (Written.valueMembers members []))
  | _ => none

def text? : Written → Option String
  | .text s => some s
  | _ => none

mutual

def Node.ofWritten? : Written → Option Node
  | .record members => (foundIn members .nothing).bind Found.node?
  | _ => none

def nodes? : List Written → Option (List Node)
  | [] => some []
  | item :: more =>
      match Node.ofWritten? item, nodes? more with
      | some n, some ns => some (n :: ns)
      | _, _ => none

def foundIn : List (String × Written) → Found → Option Found
  | [], f => some f
  | (name, value) :: more, f =>
      if name = "type" then
        match f.kind, text? value with
        | none, some s => foundIn more { f with kind := some s }
        | _, _ => none
      else if name = "attr" then
        match f.attr, attributes? value with
        | none, some attr => foundIn more { f with attr := some attr }
        | _, _ => none
      else if name = "options" then
        match f.options, options? value with
        | none, some options => foundIn more { f with options := some options }
        | _, _ => none
      else if name = "children" then
        match f.children, value with
        | none, .list items =>
            match nodes? items with
            | some children => foundIn more { f with children := some children }
            | none => none
        | _, _ => none
      else foundIn more { f with extra := f.extra.insert name value.value }

end

def Node.ofText? (text : String) : Except Fault Node :=
  match Json.read nodeSchema .node text.toList with
  | .error fault => .error fault
  | .ok value =>
      match Node.ofWritten? value with
      | some n => .ok n
      | none => .error .misshapen

end LessonAudit.Tree
