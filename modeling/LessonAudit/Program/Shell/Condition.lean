import LessonAudit.FileTree
import LessonAudit.Program.Octets
set_option autoImplicit false

namespace LessonAudit.Program.Condition

inductive Kind where
  | operand
  | unary
  | binary
  | negation
  | conjunction
  | disjunction
  | opening
  | closing
deriving DecidableEq, Repr

def unaries : List String :=
  ["-r", "-w", "-x", "-e", "-f", "-d", "-c", "-b", "-p", "-u", "-g", "-k", "-s", "-t", "-z", "-n",
    "-h", "-O", "-G", "-L", "-S"]

def binaries : List String :=
  ["=", "!=", "<", ">", "-eq", "-ne", "-ge", "-gt", "-le", "-lt", "-nt", "-ot", "-ef"]

def kindOf (argument : Octets) : Kind :=
  let text := String.ofList argument
  if unaries.contains text then .unary
  else if binaries.contains text then .binary
  else
    match text with
    | "!" => .negation
    | "-a" => .conjunction
    | "-o" => .disjunction
    | "(" => .opening
    | ")" => .closing
    | _ => .operand

def kind? : List Octets → Option Kind
  | [] => none
  | first :: more =>
      match kindOf first with
      | .unary =>
          match more with
          | [] => some .operand
          | [_] => some .unary
          | next :: _ => some (if kindOf next = .binary then .operand else .unary)
      | .opening => some (if more.isEmpty then .operand else .opening)
      | kind => some kind

abbrev Reading := StateT (List Octets) (Except Octets)

def fail {α : Type} (operator : Octets) (text : String) : Reading α :=
  throw (if operator.isEmpty then text.toList else operator ++ ": ".toList ++ text.toList)

def current : Reading Octets :=
  return (← get).headD []

def advance (count : Nat) : Reading Unit :=
  modify fun rest => rest.drop count

def number (operand : Octets) : Reading Int := do
  let body := operand.dropWhile Octets.isSpace
  match Octets.int? (body.reverse.dropWhile Octets.isSpace).reverse with
  | some n => return n
  | none => throw ("Illegal number: ".toList ++ operand)

def holdsFor (tree : FileTree) (operator : Octets) (name : Octets) : Bool :=
  let path : Path := ⟨Octets.toBytes name⟩
  let found : Option Entry := (tree.find path).toOption.map fun e => e.2
  match String.ofList operator with
  | "-e" | "-r" | "-w" | "-O" | "-G" => found.isSome
  | "-f" =>
      match found with
      | some (.file ..) | some .bare | some (.tool _) => true
      | _ => false
  | "-d" => found == some .folder
  | "-c" => found == some .sink || found == some .zeros || found == some .full
  | "-x" =>
      match found with
      | some .folder | some (.tool _) => true
      | some (.file _ executable) => executable
      | _ => false
  | "-s" =>
      match found with
      | some (.file bytes _) => !bytes.isEmpty
      | some (.tool _) | some .bare | some .folder => true
      | _ => false
  | "-h" | "-L" =>
      match tree.findOwn path with
      | .ok (_, .link _) => true
      | _ => false
  | _ => false

def sameFile (tree : FileTree) (a b : Octets) : Bool :=
  match tree.find ⟨Octets.toBytes a⟩, tree.find ⟨Octets.toBytes b⟩ with
  | .ok (p, _), .ok (q, _) => p == q
  | _, _ => false

def compare (tree : FileTree) (a operator b : Octets) : Reading Bool := do
  match String.ofList operator with
  | "=" => return a == b
  | "!=" => return a != b
  | "<" => return Octets.before a b
  | ">" => return Octets.before b a
  | "-eq" => return (← number a) == (← number b)
  | "-ne" => return (← number a) != (← number b)
  | "-lt" => return decide ((← number a) < (← number b))
  | "-le" => return decide ((← number a) ≤ (← number b))
  | "-gt" => return decide ((← number b) < (← number a))
  | "-ge" => return decide ((← number b) ≤ (← number a))
  | "-ef" => return sameFile tree a b
  | _ => return false

def simple (tree : FileTree) (k : Kind) : Reading Bool := do
  if k = .unary then
    let operator ← current
    advance 1
    match ← get with
    | [] => fail operator "argument expected"
    | operand :: _ =>
        match String.ofList operator with
        | "-z" => return operand.isEmpty
        | "-n" => return !operand.isEmpty
        | "-t" =>
            let _ ← number operand
            return false
        | _ => return holdsFor tree operator operand
  else
    let a ← current
    match kind? ((← get).drop 1) with
    | some .binary =>
        advance 1
        let operator ← current
        advance 1
        match ← get with
        | [] => fail operator "argument expected"
        | b :: _ => compare tree a operator b
    | _ => return !a.isEmpty

mutual

def either (tree : FileTree) (fuel : Nat) (k : Option Kind) : Reading Bool :=
  match fuel with
  | 0 => return false
  | fuel + 1 => do
      let a ← both tree fuel k
      if kind? ((← get).drop 1) = some .disjunction then
        advance 2
        let b ← either tree fuel (kind? (← get))
        return a || b
      else return a

def both (tree : FileTree) (fuel : Nat) (k : Option Kind) : Reading Bool :=
  match fuel with
  | 0 => return false
  | fuel + 1 => do
      let a ← inverted tree fuel k
      if kind? ((← get).drop 1) = some .conjunction then
        advance 2
        let b ← both tree fuel (kind? (← get))
        return a && b
      else return a

def inverted (tree : FileTree) (fuel : Nat) (k : Option Kind) : Reading Bool :=
  match fuel with
  | 0 => return false
  | fuel + 1 => do
      match k with
      | some .negation =>
          let next := kind? ((← get).drop 1)
          if next.isSome then advance 1
          return !(← inverted tree fuel next)
      | none => return false
      | some .opening =>
          advance 1
          let next := kind? (← get)
          if next = some .closing then return false
          else
            let a ← either tree fuel next
            advance 1
            if kind? (← get) = some .closing then return a else fail [] "closing paren expected"
      | some k => simple tree k

end

def holdsFrom (tree : FileTree) : Nat → Bool → List Octets → Except Octets Bool
  | 0, inverse, _ => .ok inverse
  | fuel + 1, inverse, arguments =>
      let judged (k : Option Kind) (arguments : List Octets) : Except Octets Bool := do
        let (holds, rest) ← (either tree (4 * arguments.length + 8) k).run arguments
        match rest with
        | operator :: _ :: _ => throw (operator ++ ": unexpected operator".toList)
        | _ => return holds != inverse
      match arguments with
      | [] => .ok inverse
      | first :: more =>
          if arguments.length = 3 && kindOf (more.headD []) = .binary then
            judged (some .operand) arguments
          else if arguments.length = 3 || arguments.length = 4 then
            if first = ['('] && arguments.getLast? = some [')'] then
              judged (kind? more.dropLast) more.dropLast
            else if first = ['!'] then holdsFrom tree fuel (!inverse) more
            else judged (kind? arguments) arguments
          else judged (kind? arguments) arguments

def holds (tree : FileTree) (bracket : Bool) (arguments : List Octets) : Except Octets Bool :=
  if bracket then
    if arguments.getLast? = some [']'] then
      holdsFrom tree (arguments.length + 1) false arguments.dropLast
    else .error "missing ]".toList
  else holdsFrom tree (arguments.length + 1) false arguments

end LessonAudit.Program.Condition
