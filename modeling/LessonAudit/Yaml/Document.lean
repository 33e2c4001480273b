import LessonAudit.Yaml.Node
import LessonAudit.Yaml.Typing
set_option autoImplicit false

namespace LessonAudit.Yaml

open Json (Value)

namespace Document

def isMergeKey : Node → Bool
  | .scalar true .absent text => text == "<<"
  | _ => false

def isNull : Node → Bool
  | .scalar true _ text => Typing.isNull (text.toList.map Char.toLower)
  | _ => false

def key? (n : Node) : Except Fault (TagKind × String) :=
  match n with
  | .scalar _ tag text =>
      if tag = .notText || (isNull n && tag ≠ .text) then .error .keyKind else .ok (tag, text)
  | _ => .error .keyKind

def scalarValue (plain : Bool) (tag : TagKind) (text : String) : Except Fault Value :=
  if plain && Typing.isNull (text.toList.map Char.toLower) then .ok .null
  else if tag = .notText then .error .tagMismatch
  else .ok (if plain then plainValue text else .text text)

abbrev Entry := Node × Except Fault Value

structure Members where
  keys : List (TagKind × String)
  record : Dict Value

def Members.add (m : Members) (key : TagKind × String) (value : Value) : Members :=
  ⟨key :: m.keys, m.record.insert key.2 value⟩

def addOwn : List Entry → Members → Except Fault Members
  | [], m => .ok m
  | (key, value) :: more, m => do
      let key ← key? key
      if m.keys.contains key then .error .repeatedKey else addOwn more (m.add key (← value))

def addMerged : List Entry → Members → Except Fault Members
  | [], m => .ok m
  | (key, value) :: more, m => do
      let key ← key? key
      if m.keys.contains key then addMerged more m else addMerged more (m.add key (← value))

mutual

def value : Node → Except Fault Value
  | .scalar plain tag text => scalarValue plain tag text
  | .list items => (values items).map .list
  | .mapping pairs => do
      let (own, merged) ← entries pairs
      let m ← addOwn own ⟨[], []⟩
      (addMerged merged m).map fun m => .record m.record

def values : List Node → Except Fault (List Value)
  | [] => .ok []
  | item :: more => do
      let v ← value item
      (values more).map (v :: ·)

def entries : List (Node × Node) → Except Fault (List Entry × List Entry)
  | [] => .ok ([], [])
  | (key, n) :: more => do
      let (own, merged) ← entries more
      if isMergeKey key then (mergedEntries n).map fun found => (own, merged ++ found)
      else .ok ((key, value n) :: own, merged)

def mergedEntries : Node → Except Fault (List Entry)
  | n@(.scalar _ _ _) => if isNull n then .ok [] else .error .mergeValue
  | .list items => mergedItems items
  | .mapping pairs => (entries pairs).map fun (own, merged) => own ++ merged

def mergedItems : List Node → Except Fault (List Entry)
  | [] => .ok []
  | item :: more => do
      let later ← mergedItems more
      (mergedEntries item).map (later ++ ·)

end

end Document

def value? (text : String) : Except Fault Value := do
  Document.value (← Node.ofText? text)

end LessonAudit.Yaml
