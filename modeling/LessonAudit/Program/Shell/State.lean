import LessonAudit.Ending
import LessonAudit.Program.Desk
import LessonAudit.Program.Script.Grammar
set_option autoImplicit false

namespace LessonAudit.Program.Shell

open Script (Word Command)

inductive Channel where
  | source (rest : Octets)
  | file (place : FilePlace) (offset : Nat) (appends : Bool)
  | drain (stored : List Octets)
  | sink
  | zeros
  | full
  | barred (reason : String)

structure Machine where
  tree : FileTree
  channels : Array Channel
  processes : Nat

structure Variable where
  name : Octets
  value : Option Octets
  exported : Bool
  readOnly : Bool

structure Function where
  line : Nat
  body : Command

structure State where
  machine : Machine
  name : Octets
  arguments : List Octets
  bindings : List Variable
  functions : List (Octets × Function)
  aliases : List (Octets × Octets)
  letters : List Char
  streams : List (Nat × Nat)
  status : Nat
  outputStatus : Nat
  lost : Bool
  mask : Nat
  line : Nat
  builtin : Option Octets
  loops : Nat
  functionDepth : Nat
  texts : Array Word
  traps : List (Nat × Octets)
  pending : List Nat
  leaving : Option Nat
  jobs : List (Nat × Nat)
  lastJob : Option Nat
  firstProcess : Nat
  family : List Nat
  locals : List (List (Octets × Option Variable))
  optionOffset : Nat

inductive Halt where
  | fault
  | leave
  | loops (count : Nat) (again : Bool)
  | back
  | signal (number process : Nat)
deriving DecidableEq, Repr

abbrev Act := ExceptT Halt (StateM State)

def optionNames : List (String × Char) :=
  [("errexit", 'e'), ("noglob", 'f'), ("ignoreeof", 'I'), ("interactive", 'i'), ("monitor", 'm'),
    ("noexec", 'n'), ("stdin", 's'), ("xtrace", 'x'), ("verbose", 'v'), ("vi", 'V'),
    ("emacs", 'E'), ("noclobber", 'C'), ("allexport", 'a'), ("notify", 'b'), ("nounset", 'u'),
    ("privileged", 'p'), ("nolog", '1'), ("debug", '2')]

namespace State

def process (s : State) : Nat :=
  s.family.headD s.firstProcess

def has (s : State) (letter : Char) : Bool :=
  s.letters.contains letter

def held? (s : State) (name : Octets) : Option Variable :=
  s.bindings.find? fun v => v.name == name

def put (s : State) (v : Variable) : State :=
  { s with bindings := v :: s.bindings.filter fun other => other.name != v.name }

def shownLetters (s : State) : Octets :=
  (optionNames.reverse.map fun e => e.2).filter s.has

def value? (s : State) (name : Octets) : Option Octets :=
  (s.held? name).bind fun v => v.value

def drawer (name : Octets) : Nat :=
  name.foldl (fun n c => n + c.toNat) (16 * (name.headD '\x00').toNat) % 39

def environment (s : State) : List (Octets × Octets) :=
  let found := s.bindings.reverse.filterMap fun v =>
    if v.exported then v.value.map fun x => (v.name, x) else none
  found.mergeSort fun a b => decide (drawer a.1 ≤ drawer b.1)

def cutters (s : State) : Octets :=
  (s.value? "IFS".toList).getD " \t\n".toList

end State

namespace Machine

def octetsAt (m : Machine) (place : FilePlace) : Octets :=
  match m.tree.entry? place with
  | some (.file bytes _) => Octets.ofBytes bytes
  | _ => []

def addChannel (m : Machine) (c : Channel) : Nat × Machine :=
  (m.channels.size, { m with channels := m.channels.push c })

def contents (m : Machine) (number : Nat) : Octets :=
  match m.channels[number]? with
  | some (.source rest) => rest
  | some (.file place offset _) => (m.octetsAt place).drop offset
  | some .zeros | some .full => List.replicate zeroCount '\x00'
  | _ => []

def leave (m : Machine) (number : Nat) (rest : Octets) : Machine :=
  let next : Option Channel :=
    match m.channels[number]? with
    | some (.source _) => some (.source rest)
    | some (.file place _ appends) =>
        some (.file place ((m.octetsAt place).length - rest.length) appends)
    | _ => none
  match next with
  | some c => { m with channels := m.channels.setIfInBounds number c }
  | none => m

def overwritten (before : Octets) (offset : Nat) (octets : Octets) : Octets :=
  before.take offset ++ List.replicate (offset - before.length) '\x00' ++ octets ++
    before.drop (offset + octets.length)

def write (m : Machine) (number : Nat) (octets : Octets) : Machine :=
  match m.channels[number]? with
  | some (.drain stored) =>
      { m with channels := m.channels.setIfInBounds number (.drain (octets :: stored)) }
  | some (.file place offset appends) =>
      match m.tree.entry? place with
      | some (.file bytes executable) =>
          let before := Octets.ofBytes bytes
          let offset := if appends then before.length else offset
          let after := overwritten before offset octets
          { m with
            tree := m.tree.put place (.file (Octets.toBytes after) executable)
            channels :=
              m.channels.setIfInBounds number (.file place (offset + octets.length) appends) }
      | _ => m
  | _ => m

def drained (m : Machine) (number : Nat) : Octets :=
  match m.channels[number]? with
  | some (.drain stored) => stored.reverse.flatten
  | _ => []

end Machine

namespace Act

def addChannel (c : Channel) : Act Nat := do
  let s ← get
  let (number, m) := s.machine.addChannel c
  set { s with machine := m }
  return number

def channel? (stream : Nat) : Act (Option Nat) := do
  return (← get).streams.lookup stream

def lead (stream channel : Nat) : Act Unit :=
  modify fun s =>
    { s with streams := (stream, channel) :: s.streams.filter fun e => e.1 != stream }

def close (stream : Nat) : Act Unit :=
  modify fun s => { s with streams := s.streams.filter fun e => e.1 != stream }

def write (stream : Nat) (octets : Octets) : Act Unit := do
  let s ← get
  match s.streams.lookup stream with
  | some number =>
      match s.machine.channels[number]? with
      | some .full => set { s with lost := s.lost || (stream == 1 && !octets.isEmpty) }
      | _ => modify fun s => { s with machine := s.machine.write number octets }
  | none => set { s with lost := s.lost || (stream == 1 && !octets.isEmpty) }

def contents (stream : Nat) : Act Octets := do
  match ← channel? stream with
  | some number => return (← get).machine.contents number
  | none => return []

def leaveInput (rest : Octets) : Act Unit := do
  match ← channel? 0 with
  | some number => modify fun s => { s with machine := s.machine.leave number rest }
  | none => return ()

def setStatus (status : Nat) : Act Unit :=
  modify fun s => { s with status := status }

def complain (text : Octets) : Act Unit := do
  let s ← get
  let command := s.builtin.elim [] fun name => name ++ ": ".toList
  write 2 (s.name ++ ": ".toList ++ Octets.ofNat s.line ++ ": ".toList ++ command ++ text ++ ['\n'])

def fault {α : Type} (text : Octets) : Act α := do
  complain text
  setStatus 2
  throw .fault

def assign (name value : Octets) : Act Unit := do
  let s ← get
  match s.held? name with
  | some v =>
      if v.readOnly then fault (name ++ ": is read only".toList)
      else set (s.put { v with value := some value, exported := v.exported || s.has 'a' })
  | none => set (s.put ⟨name, some value, s.has 'a', false⟩)
  if name == "OPTIND".toList then modify fun s => { s with optionOffset := 0 } else return ()

def markVariable (name : Octets) (change : Variable → Variable) : Act Unit :=
  modify fun s => s.put (change ((s.held? name).getD ⟨name, none, false, false⟩))

def unset (name : Octets) : Act Unit := do
  let s ← get
  match s.held? name with
  | some v =>
      if v.readOnly then fault (name ++ ": is read only".toList)
      else set { s with bindings := s.bindings.filter fun other => other.name != name }
  | none => return ()

def hide (name : Octets) : Act Unit :=
  modify fun s =>
    match s.locals with
    | [] => s
    | top :: more =>
        if top.any fun e => e.1 == name then s
        else { s with locals := ((name, s.held? name) :: top) :: more }

def uncover : Act Unit :=
  modify fun s =>
    match s.locals with
    | [] => s
    | top :: more =>
        top.foldl
          (fun s (name, before) =>
            match before with
            | some v => s.put v
            | none => { s with bindings := s.bindings.filter fun other => other.name != name })
          { s with locals := more }

def thenAlways {α : Type} (act : Act α) (after : Act Unit) : Act α := do
  let result ←
    try
      let a ← act
      pure (Except.ok a)
    catch halt => pure (Except.error halt)
  after
  match result with
  | .ok a => return a
  | .error halt => throw halt

end Act
end LessonAudit.Program.Shell
