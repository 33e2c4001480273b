import Std.Data.HashMap
import LessonAudit.Program.Rule.Reader
import LessonAudit.Program.Shell.Runner
set_option autoImplicit false

namespace LessonAudit.Program.Rule

open Shell (Act Environment)

abbrev Table := Std.HashMap String (Nat × Value)

inductive Cell where
  | value (v : Value)
  | array (number : Nat)
  | free (number : Nat)
deriving Inhabited

inductive Stop where
  | leaveLoop
  | nextRound
  | nextLine
  | nextFile
  | exit
  | unread
  | back (value : Value)
  | fault (message : Octets)

structure Host where
  name : Octets
  environment : Environment
  shell : Octets → Act Ending

structure Memory where
  functions : List Function
  globals : Std.HashMap String Cell
  arrays : Array Table
  keys : Nat
  frame : List (Octets × Cell)
  record : Octets
  fields : Array Value
  current : Option Octets
  operand : Nat
  opened : Bool
  active : List Nat
  sources : List (Octets × Octets)
  outputs : List (Octets × Nat)
  commands : List (Octets × List Octets)
  held : List Octets
  status : Nat

abbrev Work := ExceptT Stop (StateT Memory Act)

namespace Work

def fault {α : Type} (message : Octets) : Work α :=
  throw (.fault message)

def cell? (n : Octets) : Work (Option Cell) := do
  let m ← getThe Memory
  return (m.frame.lookup n) <|> m.globals[String.ofList n]?

def setCell (n : Octets) (c : Cell) : Work Unit :=
  modifyThe Memory fun m =>
    if (m.frame.lookup n).isSome then
      { m with frame := m.frame.map fun e => if e.1 == n then (n, c) else e }
    else { m with globals := m.globals.insert (String.ofList n) c }

def plainValue (n : Octets) : Work Value := do
  match ← cell? n with
  | some (.value v) => return v
  | some (.array _) => fault ("illegal reference to array ".toList ++ n)
  | _ => return .unset

def textOfName (n : String) : Work Octets := do
  match ← cell? n.toList with
  | some (.value v) => return v.toText "%.6g".toList
  | _ => return []

def textOf (v : Value) : Work Octets := do
  match v with
  | .number _ => return v.toText (← textOfName "CONVFMT")
  | _ => return v.toText []

def setNumber (n : String) (count : Nat) : Work Unit :=
  setCell n.toList (.value (.ofNat count))

def countOf (n : String) : Work Nat := do
  return (clampedOf (← plainValue n.toList).toFloat).toNat

def newArray : Work Nat := do
  let m ← getThe Memory
  set { m with arrays := m.arrays.push ∅ }
  return m.arrays.size

def arrayOf (n : Octets) : Work Nat := do
  match ← cell? n with
  | some (.array number) => return number
  | some (.free number) =>
      setCell n (.array number)
      return number
  | some (.value .unset) | none =>
      let number ← newArray
      setCell n (.array number)
      return number
  | some (.value _) => fault ("illegal reference to variable ".toList ++ n)

def table (number : Nat) : Work Table := do
  return ((← getThe Memory).arrays[number]?).getD ∅

def setElement (number : Nat) (key : Octets) (v : Value) : Work Unit :=
  modifyThe Memory fun m =>
    let name := String.ofList key
    let arrays := m.arrays.modify number fun t =>
      t.insert name (((t[name]?).map fun e => e.1).getD m.keys, v)
    { m with arrays := arrays, keys := m.keys + 1 }

def element (number : Nat) (key : Octets) : Work Value := do
  match (← table number)[String.ofList key]? with
  | some (_, v) => return v
  | none =>
      setElement number key .unset
      return .unset

def removeElement (number : Nat) (key : Octets) : Work Unit :=
  modifyThe Memory fun m =>
    { m with arrays := m.arrays.modify number fun t => t.erase (String.ofList key) }

def clearArray (number : Nat) : Work Unit :=
  modifyThe Memory fun m => { m with arrays := m.arrays.setIfInBounds number ∅ }

def keysOf (number : Nat) : Work (List Octets) := do
  let found := (← table number).toList
  return (found.mergeSort fun a b => a.2.1 ≤ b.2.1).map fun e => e.1.toList

end Work

def wordsOf (text : Octets) : List Octets :=
  let (done, current) := text.foldl
    (fun (done, current) c =>
      if Octets.isSpace c then
        (if current.isEmpty then done else current.reverse :: done, [])
      else (done, c :: current))
    (([], []) : List Octets × Octets)
  (if current.isEmpty then done else current.reverse :: done).reverse

def piecesBy (r : Regex) : Nat → Octets → Regex.Spot → List Octets
  | 0, before, s => [before ++ s.rest]
  | fuel + 1, before, s =>
      match Regex.findFrom? dialect r (s.rest.length + 1) s with
      | none => [before ++ s.rest]
      | some m =>
          let skipped := m.start - s.index
          let taken := s.rest.take skipped
          if m.octets.isEmpty then
            match m.rest with
            | [] => [before ++ s.rest]
            | c :: _ => piecesBy r fuel (before ++ taken ++ [c]) (s.skip (skipped + 1))
          else
            (before ++ taken) :: piecesBy r fuel [] (s.skip (skipped + m.octets.length))

inductive Cutter where
  | blanks
  | characters
  | mark (c : Char)
  | pattern (r : Regex)

def Cutter.read? (text : Octets) : Option Cutter :=
  match text with
  | [' '] => some .blanks
  | [] => some .characters
  | [c] => some (.mark c)
  | _ => (readRegex text).toOption.map .pattern

def Cutter.cut (c : Cutter) (text : Octets) : List Octets :=
  if text.isEmpty then []
  else
    match c with
    | .blanks => wordsOf text
    | .characters => text.map fun x => [x]
    | .mark x => Octets.pieces x text
    | .pattern r => piecesBy r (text.length + 1) [] ⟨none, text, 0, []⟩

namespace Work

def cutter : Work Cutter := do
  let text ← textOfName "FS"
  let c := (Cutter.read? text).getD .blanks
  if (← textOfName "RS").isEmpty then
    match c with
    | .mark x => return .pattern (.either (Regex.exactly x) (Regex.exactly '\n'))
    | .pattern r => return .pattern (.either r (Regex.exactly '\n'))
    | other => return other
  else return c

def setRecord (text : Octets) : Work Unit := do
  let fields := (← cutter).cut text
  modifyThe Memory fun m =>
    { m with record := text, fields := (fields.map Value.input).toArray }

def joinFields : Work Unit := do
  let mark ← textOfName "OFS"
  let texts ← (← getThe Memory).fields.toList.mapM textOf
  modifyThe Memory fun m => { m with record := Octets.joined mark texts }

def field (n : Nat) : Work Value := do
  let m ← getThe Memory
  if n = 0 then return .input m.record else return m.fields.getD (n - 1) .unset

def widened (count : Nat) (fields : Array Value) : Array Value :=
  fields ++ (Array.replicate (count - fields.size) (.input []))

def setField (n : Nat) (v : Value) : Work Unit := do
  if n = 0 then setRecord (← textOf v)
  else
    modifyThe Memory fun m =>
      { m with fields := (widened n m.fields).setIfInBounds (n - 1) v }
    joinFields

def setFieldCount (count : Nat) : Work Unit := do
  modifyThe Memory fun m => { m with fields := (widened count m.fields).extract 0 count }
  joinFields

def value (n : Octets) : Work Value := do
  if n = "NF".toList then return .ofNat (← getThe Memory).fields.size else plainValue n

def assign (n : Octets) (v : Value) : Work Unit := do
  if n = "NF".toList then setFieldCount (clampedOf v.toFloat).toNat
  else
    match ← cell? n with
    | some (.array _) => fault ("illegal reference to array ".toList ++ n)
    | _ => setCell n (.value v)

end Work

def takeRecord (ending : Octets) (input : Octets) : Option (Octets × Octets) :=
  match ending with
  | [c] =>
      if input.isEmpty then none
      else
        let record := input.takeWhile (· != c)
        some (record, input.drop (record.length + 1))
  | [] =>
      let input := input.dropWhile (· == '\n')
      if input.isEmpty then none
      else
        let r : Regex := .sequence (Regex.exactly '\n') (.repeated 1 none (Regex.exactly '\n'))
        match Regex.find? dialect r input with
        | some m => some (input.take m.start, m.rest)
        | none => some (Octets.withoutBreaks input, [])
  | _ =>
      if input.isEmpty then none
      else
        match (readRegex ending).toOption.bind fun r => Regex.find? dialect r input with
        | some m => if m.octets.isEmpty then some (input, []) else some (input.take m.start, m.rest)
        | none => some (input, [])

namespace Work

def cannotOpen {α : Type} (name : Octets) (reason : String) : Work α :=
  fault ("cannot open \"".toList ++ name ++ "\" (".toList ++ reason.toList ++ [')'])

def standardInput : Work Octets := do
  let octets ← (Act.contents 0 : Act Octets)
  (Act.leaveInput [] : Act Unit)
  return octets

def isStandard (name : Octets) : Bool :=
  name == ['-'] || isInputName name

def contentsOf (name : Octets) : Work (Except String Octets) := do
  if isStandard name then return .ok (← standardInput)
  else return readFile (← getThe Shell.State).machine.tree name

def assignment? (argument : Octets) : Option (Octets × Octets) :=
  let name := argument.takeWhile (· != '=')
  let isName := name.head?.any isNameStart && name.all fun c => isNameStart c || c.isDigit
  if isName && name.length < argument.length then some (name, argument.drop (name.length + 1))
  else none

def unescaped (text : Octets) : Octets :=
  let quoted := text.flatMap fun c => if c = '"' then ['\\', '"'] else [c]
  ((readText (quoted.length + 2) [] (quoted ++ ['"'])).map fun e => e.1).getD text

def openNext : Nat → Work Bool
  | 0 => return false
  | fuel + 1 => do
      let m ← getThe Memory
      let isThere := m.operand < (← countOf "ARGC")
      if !isThere then
        if m.opened then return false
        else
          let octets ← standardInput
          modifyThe Memory fun m => { m with opened := true, current := some octets }
          setCell "FILENAME".toList (.value (.text ['-']))
          setNumber "FNR" 0
          return true
      else
        set { m with operand := m.operand + 1 }
        let arguments ← arrayOf "ARGV".toList
        let argument ←
          match (← table arguments)[String.ofList (Octets.ofNat m.operand)]? with
          | some (_, v) => textOf v
          | none => pure []
        if argument.isEmpty then openNext fuel
        else
          match assignment? argument with
          | some (name, text) =>
              assign name (.input (unescaped text))
              openNext fuel
          | none =>
              match ← contentsOf argument with
              | .error "Is a directory" => fault "read error (Is a directory)".toList
              | .error reason => cannotOpen argument reason
              | .ok octets =>
                  modifyThe Memory fun m => { m with opened := true, current := some octets }
                  setCell "FILENAME".toList (.value (.text argument))
                  setNumber "FNR" 0
                  return true

def nextRecord : Nat → Work (Option Octets)
  | 0 => return none
  | fuel + 1 => do
      match (← getThe Memory).current with
      | none =>
          let count ← countOf "ARGC"
          if ← openNext (count + 2) then nextRecord fuel else return none
      | some input =>
          match takeRecord (← textOfName "RS") input with
          | none =>
              modifyThe Memory fun m => { m with current := none }
              nextRecord fuel
          | some (record, rest) =>
              modifyThe Memory fun m => { m with current := some rest }
              setNumber "NR" ((← countOf "NR") + 1)
              setNumber "FNR" ((← countOf "FNR") + 1)
              return some record

def emit (octets : Octets) : Work Unit :=
  modifyThe Memory fun m => { m with held := octets :: m.held }

def flush : Work Unit := do
  let m ← getThe Memory
  set { m with held := [] }
  (Act.write 1 m.held.reverse.flatten : Act Unit)

def runCommand (h : Host) (text : Octets) (input : Option Octets) (kept : Bool) :
    Act (Ending × Octets) := do
  let streams := (← getThe Shell.State).streams
  match input with
  | some octets => Act.lead 0 (← Act.addChannel (.source octets))
  | none => pure ()
  let drain ← Act.addChannel (.drain [])
  if kept then Act.lead 1 drain
  let ending ← h.shell text
  modify fun s => { s with streams := streams }
  return (ending, (← get).machine.drained drain)

def statusOf : Ending → Nat
  | .exited status => status
  | .killed number => 256 + number

def openOutput (name : Octets) (appends : Bool) : Work Nat := do
  let s ← getThe Shell.State
  let tree := s.machine.tree
  let before := if appends then (readFile tree name).toOption.getD [] else []
  match tree.findNew (pathOf name), writeFile tree name before with
  | .error fault, _ => cannotOpen name fault.reason
  | _, .error reason =>
      if reason = "No space left on device" then (Act.addChannel .full : Act Nat)
      else cannotOpen name reason
  | .ok place, .ok tree =>
      set { s with machine := { s.machine with tree := tree } }
      match tree.entry? place with
      | some (.file ..) => (Act.addChannel (.file place before.length appends) : Act Nat)
      | _ => (Act.addChannel .sink : Act Nat)

def send (outlet : Outlet) (name octets : Octets) : Work Unit := do
  let m ← getThe Memory
  match outlet with
  | .command =>
      let held := (m.commands.lookup name).getD []
      let others := m.commands.filter fun e => e.1 != name
      if (m.commands.lookup name).isNone then
        flush
        modifyThe Memory fun m => { m with commands := m.commands ++ [(name, [octets])] }
      else set { m with commands := others ++ [(name, octets :: held)] }
  | _ =>
      match String.ofList name with
      | "/dev/stdout" | "-" => emit octets
      | "/dev/stderr" => (Act.write 2 octets : Act Unit)
      | _ =>
          let channel ←
            match m.outputs.lookup name with
            | some channel => pure channel
            | none =>
                let channel ← openOutput name (outlet == .append)
                modifyThe Memory fun m => { m with outputs := (name, channel) :: m.outputs }
                pure channel
          modifyThe Shell.State fun s => { s with machine := s.machine.write channel octets }

def close (h : Host) (name : Octets) : Work Int := do
  let m ← getThe Memory
  match m.commands.lookup name with
  | some held =>
      set { m with commands := m.commands.filter fun e => e.1 != name }
      let (ending, _) ← (runCommand h name (some held.reverse.flatten) false : Act _)
      return statusOf ending
  | none =>
      if (m.outputs.lookup name).isSome || (m.sources.lookup name).isSome then
        set { m with
          outputs := m.outputs.filter fun e => e.1 != name
          sources := m.sources.filter fun e => e.1 != name }
        return 0
      else return -1

def closeAll (h : Host) : Work Unit := do
  for (name, _) in (← getThe Memory).commands do
    let _ ← close h name

def recordFrom (h : Host) (origin : Origin) (name : Octets) :
    Work (Except String (Option Octets)) := do
  let input ←
    match (← getThe Memory).sources.lookup name with
    | some rest => pure (Except.ok rest)
    | none =>
        if origin = .command then
          flush
          let (_, octets) ← (runCommand h name none true : Act _)
          pure (.ok octets)
        else contentsOf name
  match input with
  | .error reason => return .error reason
  | .ok input =>
      let found := takeRecord (← textOfName "RS") input
      let rest := found.elim [] fun e => e.2
      modifyThe Memory fun m =>
        { m with sources := (name, rest) :: m.sources.filter fun e => e.1 != name }
      return .ok (found.map fun e => e.1)

end Work
end LessonAudit.Program.Rule
