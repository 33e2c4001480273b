import LessonAudit.Yaml.Token
set_option autoImplicit false

namespace LessonAudit.Yaml

inductive Node where
  | scalar (plain : Bool) (tag : TagKind) (text : String)
  | list (items : List Node)
  | mapping (pairs : List (Node × Node))
deriving Repr

def Node.absent : Node := .scalar true .absent ""

namespace Node

mutual

def size : Node → Nat
  | .scalar _ _ _ => 1
  | .list items => 2 + sizeOfItems items
  | .mapping pairs => 2 + sizeOfPairs pairs

def sizeOfItems : List Node → Nat
  | [] => 0
  | item :: more => item.size + sizeOfItems more

def sizeOfPairs : List (Node × Node) → Nat
  | [] => 0
  | (key, value) :: more => key.size + value.size + sizeOfPairs more

end

/-- The lexemes to come; the handles that directives declare; the anchors by name, the latest
first, each with a number of its own; the nodes of those anchors whose node is complete; how many
lists and mappings are open; the count of aliases and of what they stand for. -/
structure State where
  rest : List Lexeme
  handles : Tag.Handles
  anchors : List (String × Nat)
  complete : List (Nat × Node)
  depth : Nat
  aliases : Nat
  repeated : Nat

def depthLimit : Nat := 2000

def repeatLimit : Nat := 1000000

namespace State

def ofLexemes (rest : List Lexeme) (handles : Tag.Handles) : State :=
  ⟨rest, handles, [], [], 0, 0, 0⟩

def skip (s : State) : State :=
  { s with rest := s.rest.tail }

def enter (s : State) : Except Fault State :=
  if s.depth < depthLimit then .ok { s with depth := s.depth + 1 } else .error .depth

def leave (s : State) : State :=
  { s with depth := s.depth - 1 }

def addAnchor (s : State) (name : String) : State :=
  { s with anchors := (name, s.anchors.length) :: s.anchors }

def setNode (s : State) (anchor : Option Nat) (n : Node) : State :=
  match anchor with
  | some number => { s with complete := (number, n) :: s.complete }
  | none => s

def resolve (s : State) (name : String) : Except Fault (Node × State) :=
  match (s.anchors.lookup name).bind fun number => s.complete.lookup number with
  | some n =>
      let repeated := s.repeated + n.size
      if repeatLimit < repeated then .error .aliasCount
      else .ok (n, { s.skip with aliases := s.aliases + 1, repeated := repeated })
  | none => .error .unknownAnchor

def tagKind (s : State) (handle suffix : String) : Except Fault TagKind :=
  (Tag.name s.handles handle suffix).map Tag.kind

end State

structure Properties where
  anchor : Option Nat
  tag : TagKind

def properties (s : State) : Except Fault (Properties × State) :=
  match s.rest with
  | .anchor name :: .tag handle suffix :: _ =>
      (s.tagKind handle suffix).map fun tag =>
        (⟨some s.anchors.length, tag⟩, (s.addAnchor name).skip.skip)
  | .anchor name :: _ => .ok (⟨some s.anchors.length, .absent⟩, (s.addAnchor name).skip)
  | .tag handle suffix :: .anchor name :: _ =>
      (s.tagKind handle suffix).map fun tag =>
        (⟨some s.anchors.length, tag⟩, (s.addAnchor name).skip.skip)
  | .tag handle suffix :: _ =>
      (s.tagKind handle suffix).map fun tag => (⟨none, tag⟩, s.skip)
  | _ => .ok (⟨none, .absent⟩, s)

def absentAfter (p : Properties) (s : State) : Except Fault (Node × State) :=
  if p.anchor.isSome || p.tag ≠ .absent then .ok (.scalar true p.tag "", s)
  else .error .content

def ofText (p : Properties) (style : Style) (text : String) : Except Fault Node :=
  match style with
  | .bare => .error .indentation
  | .block => .ok (.scalar false p.tag text)
  | .quoted => .ok (.scalar (p.anchor.isSome && text.isEmpty) p.tag text)
  | .plain => .ok (.scalar true p.tag text)

inductive Place where
  | block
  | member
  | flow
deriving DecidableEq

mutual

def read (place : Place) (fuel : Nat) (s : State) : Except Fault (Node × State) :=
  match fuel with
  | 0 => .error .content
  | fuel + 1 =>
      match s.rest with
      | .alias name :: _ => s.resolve name
      | _ => do
          let (p, s) ← properties s
          let (n, s) ←
            match s.rest with
            | .scalar style text :: _ => (ofText p style text).map fun n => (n, s.skip)
            | .flowList :: _ => do readFlowList fuel true [] (← s.skip.enter)
            | .flowMapping :: _ => do readFlowMapping fuel true [] (← s.skip.enter)
            | .entry :: _ =>
                if place = .member then do readMemberList fuel [] (← s.enter) else absentAfter p s
            | .blockList :: _ =>
                if place = .flow then absentAfter p s
                else do readBlockList fuel [] (← s.skip.enter)
            | .blockMapping :: _ =>
                if place = .flow then absentAfter p s
                else do readBlockMapping fuel [] (← s.skip.enter)
            | _ => absentAfter p s
          .ok (n, s.setNode p.anchor n)

def readBlockList (fuel : Nat) (done : List Node) (s : State) : Except Fault (Node × State) :=
  match fuel with
  | 0 => .error .content
  | fuel + 1 =>
      match s.rest with
      | .blockEnd :: _ => .ok (.list done.reverse, s.skip.leave)
      | .entry :: .entry :: _ | .entry :: .blockEnd :: _ =>
          readBlockList fuel (absent :: done) s.skip
      | .entry :: _ => do
          let (n, s) ← read .block fuel s.skip
          readBlockList fuel (n :: done) s
      | _ => .error .entryPlace

def readMemberList (fuel : Nat) (done : List Node) (s : State) : Except Fault (Node × State) :=
  match fuel with
  | 0 => .error .content
  | fuel + 1 =>
      match s.rest with
      | .entry :: .entry :: _ | .entry :: .key :: _ | .entry :: .value :: _
      | .entry :: .blockEnd :: _ => readMemberList fuel (absent :: done) s.skip
      | .entry :: _ => do
          let (n, s) ← read .block fuel s.skip
          readMemberList fuel (n :: done) s
      | _ => .ok (.list done.reverse, s.leave)

def readMember (fuel : Nat) (s : State) : Except Fault (Node × State) :=
  match fuel with
  | 0 => .error .content
  | fuel + 1 =>
      match s.rest with
      | .key :: _ | .value :: _ | .blockEnd :: _ => .ok (absent, s)
      | _ => read .member fuel s

def readBlockMapping (fuel : Nat) (done : List (Node × Node)) (s : State) :
    Except Fault (Node × State) :=
  match fuel with
  | 0 => .error .content
  | fuel + 1 =>
      match s.rest with
      | .blockEnd :: _ => .ok (.mapping done.reverse, s.skip.leave)
      | .key :: _ | .value :: _ => do
          let (key, s) ←
            match s.rest with
            | .key :: _ => readMember fuel s.skip
            | _ => .ok (absent, s)
          let (value, s) ←
            match s.rest with
            | .value :: _ => readMember fuel s.skip
            | _ => .ok (absent, s)
          readBlockMapping fuel ((key, value) :: done) s
      | _ => .error .keyPlace

def readFlowKey (fuel : Nat) (s : State) : Except Fault (Node × State) :=
  match fuel with
  | 0 => .error .content
  | fuel + 1 =>
      match s.rest with
      | .value :: _ | .flowEntry :: _ | .flowMappingEnd :: _ => .ok (absent, s)
      | _ => read .flow fuel s

def readFlowValue (fuel : Nat) (s : State) : Except Fault (Node × State) :=
  match fuel with
  | 0 => .error .content
  | fuel + 1 =>
      match s.rest with
      | .value :: .flowEntry :: _ | .value :: .flowMappingEnd :: _ => .ok (absent, s.skip)
      | .value :: _ => read .flow fuel s.skip
      | _ => .ok (absent, s)

def readFlowMapping (fuel : Nat) (first : Bool) (done : List (Node × Node)) (s : State) :
    Except Fault (Node × State) :=
  match fuel with
  | 0 => .error .content
  | fuel + 1 => do
      let s ←
        match first, s.rest with
        | false, .flowEntry :: _ => .ok s.skip
        | false, .flowMappingEnd :: _ => .ok s
        | false, _ => .error .bracket
        | true, _ => .ok s
      match s.rest with
      | .flowMappingEnd :: _ => .ok (.mapping done.reverse, s.skip.leave)
      | .key :: _ => do
          let (key, s) ← readFlowKey fuel s.skip
          let (value, s) ← readFlowValue fuel s
          readFlowMapping fuel false ((key, value) :: done) s
      | .value :: _ => do
          let (value, s) ← readFlowValue fuel s
          readFlowMapping fuel false ((absent, value) :: done) s
      | _ => do
          let (key, s) ← read .flow fuel s
          readFlowMapping fuel false ((key, absent) :: done) s

def readPair (fuel : Nat) (s : State) : Except Fault (Node × State) :=
  match fuel with
  | 0 => .error .content
  | fuel + 1 => do
      let s ← s.enter
      let (key, s) ←
        match s.rest with
        | .value :: _ | .flowEntry :: _ | .flowListEnd :: _ => .ok (absent, s.skip)
        | _ => read .flow fuel s
      let (value, s) ←
        match s.rest with
        | .value :: .flowEntry :: _ | .value :: .flowListEnd :: _ => .ok (absent, s.skip)
        | .value :: _ => read .flow fuel s.skip
        | _ => .ok (absent, s)
      .ok (.mapping [(key, value)], s.leave)

def readFlowList (fuel : Nat) (first : Bool) (done : List Node) (s : State) :
    Except Fault (Node × State) :=
  match fuel with
  | 0 => .error .content
  | fuel + 1 => do
      let s ←
        match first, s.rest with
        | false, .flowEntry :: _ => .ok s.skip
        | false, .flowListEnd :: _ => .ok s
        | false, _ => .error .bracket
        | true, _ => .ok s
      match s.rest with
      | .flowListEnd :: _ => .ok (.list done.reverse, s.skip.leave)
      | .key :: _ => do
          let (n, s) ← readPair fuel s.skip
          readFlowList fuel false (n :: done) s
      | _ => do
          let (n, s) ← read .flow fuel s
          readFlowList fuel false (n :: done) s

end

def skipDirectives (version : Bool) (handles : Tag.Handles) :
    List Lexeme → Except Fault (List Lexeme × Tag.Handles)
  | .directive :: rest =>
      if version then .error .directive else skipDirectives true [] rest
  | .tagDirective handle start :: rest => skipDirectives version [(handle, start)] rest
  | rest => .ok (rest, handles)

def isDirective : Lexeme → Bool
  | .directive => true
  | .tagDirective _ _ => true
  | _ => false

def firstRoot (lexemes : List Lexeme) : Except Fault (Node × State) := do
  let lexemes := lexemes.dropWhile (· == .documentEnd)
  let (rest, handles) ← skipDirectives false [] lexemes
  let fuel := 3 * lexemes.length + 3
  match rest with
  | .documentStart :: after =>
      match after with
      | [] | .documentEnd :: _ => .ok (absent, .ofLexemes after [])
      | _ => read .block fuel (.ofLexemes after handles)
  | [] => if lexemes.isEmpty then .ok (absent, .ofLexemes [] []) else .error .directive
  | _ =>
      if rest.length < lexemes.length then .error .directive
      else read .block fuel (.ofLexemes rest handles)

def startsBehindEnd (rest : List Lexeme) : Bool :=
  let rest := rest.dropWhile (· == .documentEnd)
  if rest.head?.any isDirective then
    match skipDirectives false [] rest with
    | .ok (.documentStart :: _, _) => true
    | _ => false
  else !rest.isEmpty

def checkRest (rest : List Lexeme) (fault : Option Fault) : Except Fault Unit :=
  match rest with
  | [] => fault.elim (.ok ()) .error
  | .documentEnd :: more => if startsBehindEnd more then .error .severalDocuments else .ok ()
  | .documentStart :: _ => .error .severalDocuments
  | lexeme :: _ => if isDirective lexeme then .error .directive else .ok ()

def checkAliases (s : State) : Except Fault Unit :=
  if 100 ≤ s.aliases ∧ 10 * s.anchors.length < s.aliases then .error .aliasCount else .ok ()

def ofLexemes? (lexemes : List Lexeme) (fault : Option Fault) : Except Fault Node := do
  let (n, s) ← firstRoot lexemes
  checkRest s.rest fault
  checkAliases s
  .ok n

end Node

def Node.ofText? (text : String) : Except Fault Node :=
  let cs := text.toList
  let cs := if cs.head? = some (Char.ofNat 0xFEFF) then cs.tail else cs
  let (found, fault) := tokens cs
  Node.ofLexemes? (found.map fun t => t.lexeme) fault

end LessonAudit.Yaml
