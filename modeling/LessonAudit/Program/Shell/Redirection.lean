import LessonAudit.Program.Shell.Expansion
set_option autoImplicit false

namespace LessonAudit.Program.Shell

open Script (Redirect)

inductive Route where
  | read (stream : Nat) (name : Octets)
  | write (stream : Nat) (replaces : Bool) (name : Octets)
  | append (stream : Nat) (name : Octets)
  | both (stream : Nat) (name : Octets)
  | join (stream target : Nat)
  | close (stream : Nat)
  | here (stream number : Nat)

def streamNamed? (name : Octets) : Option Nat :=
  match String.ofList name with
  | "/dev/stdin" => some 0
  | "/dev/stdout" => some 1
  | "/dev/stderr" => some 2
  | text =>
      let digits : Option Octets :=
        if "/dev/fd/".toList.isPrefixOf name then some (name.drop 8)
        else if text.startsWith "/proc/self/fd/" then some (name.drop 14)
        else none
      digits.bind fun d => if Octets.isDecimal d then some (Octets.value d) else none

namespace Redirect

def target (stream : Nat) (text : Octets) : Act Route :=
  match text with
  | ['-'] => return .close stream
  | [d] =>
      if d.isDigit then return .join stream (d.toNat - 48)
      else Act.fault "Syntax error: Bad fd number".toList
  | _ => Act.fault "Syntax error: Bad fd number".toList

def route (outputs : Outputs) (r : Redirect) : Act Route := do
  match r with
  | .read stream name => return .read stream (← expandText outputs .single name)
  | .write stream replaces name =>
      return .write stream replaces (← expandText outputs .single name)
  | .append stream name => return .append stream (← expandText outputs .single name)
  | .both stream name => return .both stream (← expandText outputs .single name)
  | .join stream name => target stream (← expandText outputs .single name)
  | .here stream number => return .here stream number

end Redirect

namespace Route

def reason (missing : String) : WalkFault → String
  | .missing => missing
  | .notFolder => missing
  | fault => fault.reason

def refuse {α : Type} (verb : String) (name : Octets) (reason : String) : Act α :=
  Act.fault (("cannot " ++ verb ++ " ").toList ++ name ++ ": ".toList ++ reason.toList)

def channelOf (place : FilePlace) (appends : Bool) : Entry → Channel
  | .sink => .sink
  | .zeros => .zeros
  | .full => .full
  | .folder => .barred "Is a directory"
  | .bare => .barred "Input/output error"
  | .file .. => .file place 0 appends
  | _ => .source []

def openRead (name : Octets) : Act Nat := do
  match ← (streamNamed? name).elim (pure none) Act.channel? with
  | some channel => return channel
  | none =>
      match (← get).machine.tree.find (pathOf name) with
      | .error fault => refuse "open" name (reason "No such file" fault)
      | .ok (place, entry) => Act.addChannel (channelOf place false entry)

def openWrite (name : Octets) (truncates appends fresh : Bool) : Act Nat := do
  match ← (streamNamed? name).elim (pure none) Act.channel? with
  | some channel => return channel
  | none =>
      let s ← get
      let tree := s.machine.tree
      match tree.findNew (pathOf name) with
      | .error fault => refuse "create" name (reason "Directory nonexistent" fault)
      | .ok place =>
          let put (bytes : List UInt8) (executable : Bool) : Act Nat := do
            set { s with
              machine := { s.machine with tree := tree.put place (.file bytes executable) } }
            Act.addChannel (.file place 0 appends)
          match tree.entry? place with
          | none =>
              if name.getLast? = some '/' then refuse "create" name "Is a directory"
              else put [] false
          | some .folder => refuse "create" name "Is a directory"
          | some (.file bytes executable) =>
              if fresh then refuse "create" name "File exists"
              else if truncates then put [] executable
              else put bytes executable
          | some entry => Act.addChannel (channelOf place appends entry)

def perform (outputs : Outputs) (r : Route) : Act Unit := do
  match r with
  | .read stream name => Act.lead stream (← openRead name)
  | .write stream replaces name =>
      let fresh := (← get).has 'C' && !replaces
      Act.lead stream (← openWrite name true false fresh)
  | .append stream name => Act.lead stream (← openWrite name false true false)
  | .both stream name => Act.lead stream (← openWrite name false false false)
  | .join stream target =>
      match ← Act.channel? target with
      | some channel => Act.lead stream channel
      | none => Act.fault (Octets.ofNat target ++ ": Bad file descriptor".toList)
  | .close stream => Act.close stream
  | .here stream number =>
      let word := ((← get).texts[number]?).getD []
      let text ← expandText outputs .single word
      Act.lead stream (← Act.addChannel (.source text))

end Route

def performAll (outputs : Outputs) (routes : List Route) : Act Unit :=
  routes.forM (Route.perform outputs)

def attempt (act : Act Unit) : Act Bool :=
  try
    act
    return true
  catch halt => if halt = .fault then return false else throw halt

end LessonAudit.Program.Shell
