import LessonAudit.Program.Arithmetic
import LessonAudit.Program.Shell.Field
set_option autoImplicit false

namespace LessonAudit.Program.Shell

open Script (Form Piece Word Command)
open Wildcard (Letter)

structure Manner where
  full : Bool
  inner : Bool
  colons : Bool
deriving DecidableEq, Repr

namespace Manner

def argument : Manner := ⟨true, false, false⟩
def single : Manner := ⟨false, false, false⟩
def value : Manner := ⟨false, false, true⟩

end Manner

abbrev Outputs := Option Command → Act Octets

def State.home? (s : State) (user : Octets) : Option Octets :=
  if user.isEmpty then s.value? "HOME".toList
  else if user = "root".toList then some "/root".toList
  else none

def textRuns (s : State) (m : Manner) (atStart isLast : Bool) (cut : Cut) :
    Nat → Octets → List Run
  | 0, text => [.ofOctets text false cut]
  | fuel + 1, text =>
      match text with
      | [] => []
      | c :: rest =>
          let name := rest.takeWhile fun x => x != '/' && !(m.colons && x == ':')
          let behind := rest.drop name.length
          let home :=
        if c = '~' && atStart && (isLast || !behind.isEmpty) then s.home? name else none
          match home with
          | some folder =>
              .ofOctets folder true .whole :: textRuns s m false isLast cut fuel behind
          | none =>
              if !m.colons then [.ofOctets text false cut]
              else
                let upTo := text.takeWhile (· != ':')
                match text.drop upTo.length with
                | [] => [.ofOctets text false cut]
                | _ :: behind =>
                    .ofOctets (upTo ++ [':']) false cut ::
                      textRuns s m true isLast cut fuel behind

def State.allArguments (s : State) (full quoted isList : Bool) : Octets :=
  let mark : Octets :=
    if quoted && full && isList then ['\x00']
    else if full && !quoted then (if (s.value? "IFS".toList).isSome then ['\x00'] else [' '])
    else
      match s.value? "IFS".toList with
      | some cutters => cutters.take 1
      | none => [' ']
  Octets.joined mark s.arguments

def State.parameter? (s : State) (full quoted : Bool) (name : Octets) : Option Octets :=
  match name with
  | ['@'] => some (s.allArguments full quoted true)
  | ['*'] => some (s.allArguments full quoted false)
  | ['#'] => some (Octets.ofNat s.arguments.length)
  | ['?'] => some (Octets.ofNat s.status)
  | ['$'] => some (Octets.ofNat s.firstProcess)
  | ['!'] => s.lastJob.map Octets.ofNat
  | ['-'] => some s.shownLetters
  | _ =>
      if Octets.isDecimal name then
        match Octets.value name with
        | 0 => some s.name
        | n + 1 => s.arguments[n]?
      else s.value? name

def demand {α : Type} (name text : Octets) : Act α :=
  Act.fault (name ++ ": ".toList ++ text)

def calculate (text : Octets) : Act Octets := do
  let s ← get
  let values := s.bindings.filterMap fun v => v.value.map fun x => (v.name, x)
  match Arithmetic.evaluate text values with
  | .ok (n, after) =>
      let changes := after.take (after.length - values.length)
      changes.reverse.forM fun (name, value) => Act.assign name value
      return Octets.ofInt n
  | .error (.expression reason) =>
      Act.fault ("arithmetic expression: ".toList ++ reason.toList ++ ": \"".toList ++ text ++
        ['"'])
  | .error (.number text) => Act.fault ("Illegal number: ".toList ++ text)

def cutText (front longest : Bool) (pattern : List Letter) (text : Octets) : Octets :=
  let items := Wildcard.read pattern
  if front then text.drop ((Wildcard.startLength? items longest text).getD 0)
  else text.take ((Wildcard.endStart? items longest text).getD text.length)

def expandParameter (expand : Manner → Word → Act (List Run)) (m : Manner) (name : Octets)
    (form : Form) (emptyToo : Bool) (word : Word) (quoted : Bool) : Act (List Run) := do
  let s ← get
  let found := s.parameter? m.full quoted name
  let given := if emptyToo then found.filter fun v => !v.isEmpty else found
  let cut : Cut :=
    if !quoted then .words
    else if name == ['@'] && m.full && !s.arguments.isEmpty then .edges
    else .whole
  let placed (text : Octets) : Act (List Run) := return [.ofOctets text quoted cut]
  let missing : Act (List Run) :=
    if s.has 'u' then demand name "parameter not set".toList else placed []
  let inner : Manner := { m with inner := !quoted }
  match form with
  | .faulty => Act.fault "Bad substitution".toList
  | .plain => found.elim missing placed
  | .length =>
      match found with
      | some text => placed (Octets.ofNat text.length)
      | none => if s.has 'u' then missing else placed ['0']
  | .fallback => given.elim (expand inner word) placed
  | .instead => given.elim (return []) fun _ => expand inner word
  | .assign =>
      match given with
      | some text => placed text
      | none =>
          let text := octetsOf (lettersOf (← expand .single word))
          if !Script.isName name then demand name "bad variable name".toList
          else
            Act.assign name text
            placed text
  | .demand =>
      match given with
      | some text => placed text
      | none =>
          let text := octetsOf (lettersOf (← expand .single word))
          if word.isEmpty then
            demand name ("parameter not set" ++ if emptyToo then " or null" else "").toList
          else demand name text
  | .cut front longest =>
      match found with
      | none => missing
      | some text =>
          let pattern := lettersOf (← expand .single word)
          placed (cutText front longest pattern text)

def expandPiece (outputs : Outputs) (expand : Manner → Word → Act (List Run)) (m : Manner)
    (atStart isLast : Bool) (piece : Piece) : Act (List Run) := do
  match piece with
  | .mark => return [⟨[.mark], .whole⟩]
  | .text octets true => return [.ofOctets octets true .whole]
  | .text octets false =>
      let cut : Cut := if m.inner then .words else .whole
      return textRuns (← get) m atStart isLast cut (octets.length + 1) octets
  | .value name form emptyToo word quoted =>
      expandParameter expand m name form emptyToo word quoted
  | .output body quoted =>
      let octets := (Octets.withoutBreaks (← outputs body)).filter (· != '\x00')
      return [.ofOctets octets quoted (if quoted then .whole else .words)]
  | .number expression quoted =>
      let text := octetsOf (lettersOf (← expand .single expression))
      return [.ofOctets (← calculate text) quoted (if quoted then .whole else .words)]

def expandFrom (piece : Bool → Bool → Piece → Act (List Run)) : Bool → Word → Act (List Run)
  | _, [] => return []
  | atStart, .mark :: .value ['@'] .plain emptyToo word true :: .mark :: more => do
      let runs ← piece atStart more.isEmpty (.value ['@'] .plain emptyToo word true)
      return runs ++ (← expandFrom piece false more)
  | atStart, first :: more => do
      let runs ← piece atStart more.isEmpty first
      return runs ++ (← expandFrom piece false more)

def expandTo (outputs : Outputs) : Nat → Manner → Word → Act (List Run)
  | 0, _, _ => Act.fault "Bad substitution".toList
  | depth + 1, m, w => expandFrom (expandPiece outputs (expandTo outputs depth) m) true w

def expand (outputs : Outputs) (m : Manner) (w : Word) : Act (List Run) :=
  expandTo outputs Script.depthLimit m w

def expandText (outputs : Outputs) (m : Manner) (w : Word) : Act Octets := do
  return octetsOf (lettersOf (← expand outputs m w))

def expandPattern (outputs : Outputs) (w : Word) : Act (List Letter) := do
  return lettersOf (← expand outputs .single w)

def expandArgument (outputs : Outputs) (w : Word) : Act (List Octets) := do
  let runs ← expand outputs .argument w
  let s ← get
  let fields := (Fields.ofRuns s.cutters none runs).map fun bits => bits.filterMap Bit.letter?
  return fields.flatMap fun letters =>
    if s.has 'f' then [octetsOf letters] else matching s.machine.tree letters

def expandArguments (outputs : Outputs) : List Word → Act (List Octets)
  | [] => return []
  | w :: more => do
      let found ← expandArgument outputs w
      return found ++ (← expandArguments outputs more)

end LessonAudit.Program.Shell
