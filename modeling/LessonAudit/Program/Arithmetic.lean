import LessonAudit.Program.Format
set_option autoImplicit false

namespace LessonAudit.Program.Arithmetic

inductive Token where
  | number (n : Int)
  | name (text : Octets)
  | sign (text : String)
deriving DecidableEq, Repr

def levels : List (List String) :=
  [["*", "/", "%"], ["+", "-"], ["<<", ">>"], ["<", "<=", ">", ">="], ["==", "!="], ["&"], ["^"],
    ["|"]]

def signs : List String :=
  ["<<=", ">>=", "<<", ">>", "<=", ">=", "==", "!=", "&&", "||", "*=", "/=", "%=", "+=", "-=",
    "&=", "^=", "|=", "*", "/", "%", "+", "-", "<", ">", "&", "^", "|", "!", "~", "?", ":", "(",
    ")", "="]

def isNameStart (c : Char) : Bool :=
  c.isAlpha || c == '_'

def isNameChar (c : Char) : Bool :=
  c.isAlphanum || c == '_'

def wrapped (n : Int) : Int :=
  (n + 0x8000000000000000) % 0x10000000000000000 - 0x8000000000000000

def clamped (n : Int) : Int :=
  max (-0x8000000000000000) (min n 0x7fffffffffffffff)

def tokens : Nat → Octets → List Token
  | 0, _ => []
  | _ + 1, [] => []
  | fuel + 1, c :: rest =>
      if Octets.isSpace c then tokens fuel rest
      else if c.isDigit then
        let (n, after) := Format.leadingInt (c :: rest)
        .number (clamped n) :: tokens fuel after
      else if isNameStart c then
        let name := (c :: rest).takeWhile isNameChar
        .name name :: tokens fuel ((c :: rest).drop name.length)
      else
        match signs.find? fun s => s.toList.isPrefixOf (c :: rest) with
        | some s => .sign s :: tokens fuel ((c :: rest).drop s.length)
        | none => [.sign "?!"]

inductive Fault where
  | expression (text : String)
  | number (text : Octets)
deriving DecidableEq, Repr

structure State where
  rest : List Token
  values : List (Octets × Octets)

abbrev Reading := StateT State (Except Fault)

def peek : Reading (Option Token) :=
  return (← get).rest.head?

def skip : Reading Unit :=
  modify fun s => { s with rest := s.rest.tail }

def fault {α : Type} (text : String) : Reading α :=
  throw (.expression text)

def valueOf (name : Octets) : Reading Int := do
  let text := ((← get).values.lookup name).getD []
  let trimmed := (text.reverse.dropWhile Octets.isSpace).reverse
  if trimmed.all Octets.isSpace then return 0
  else
    let (n, rest) := Format.leadingInt trimmed
    if rest.isEmpty then return clamped n else throw (.number text)

def apply (sign : String) (a b : Int) : Reading Int :=
  let truth (p : Bool) : Reading Int := return (if p then 1 else 0)
  let bits (n : Int) : Nat := (n % 0x10000000000000000).toNat
  match sign with
  | "*" => return wrapped (a * b)
  | "/" => if b = 0 then fault "division by zero" else return wrapped (a.tdiv b)
  | "%" => if b = 0 then fault "division by zero" else return a.tmod b
  | "+" => return wrapped (a + b)
  | "-" => return wrapped (a - b)
  | "<<" => return wrapped (a * (Nat.pow 2 (bits b % 64) : Nat))
  | ">>" => return a.fdiv (Nat.pow 2 (bits b % 64) : Nat)
  | "<" => truth (a < b)
  | "<=" => truth (a ≤ b)
  | ">" => truth (b < a)
  | ">=" => truth (b ≤ a)
  | "==" => truth (a == b)
  | "!=" => truth (a != b)
  | "&" => return wrapped (bits a &&& bits b : Nat)
  | "^" => return wrapped (bits a ^^^ bits b : Nat)
  | "|" => return wrapped (bits a ||| bits b : Nat)
  | _ => return b

def assignment? (sign : String) : Option String :=
  let cs := sign.toList
  if sign = "=" then some "="
  else if cs.getLast? = some '=' && (levels.flatten.contains (String.ofList cs.dropLast)) &&
      !(["<=", ">=", "==", "!="].contains sign) then
    some (String.ofList cs.dropLast)
  else none

mutual

def primary (fuel : Nat) (idle : Bool) : Reading Int :=
  match fuel with
  | 0 => fault "expecting primary"
  | fuel + 1 => do
      match ← peek with
      | some (.number n) =>
          skip
          return n
      | some (.name name) =>
          skip
          if idle then return 0 else valueOf name
      | some (.sign "(") =>
          skip
          let n ← assignment fuel idle
          if (← peek) = some (.sign ")") then
            skip
            return n
          else fault "expecting \x27)\x27"
      | some (.sign "+") =>
          skip
          primary fuel idle
      | some (.sign "-") =>
          skip
          return wrapped (-(← primary fuel idle))
      | some (.sign "!") =>
          skip
          return if (← primary fuel idle) = 0 then 1 else 0
      | some (.sign "~") =>
          skip
          return -(← primary fuel idle) - 1
      | _ => fault "expecting primary"

def operation (fuel : Nat) (idle : Bool) (tighter : List (List String)) : Reading Int :=
  match fuel with
  | 0 => fault "expecting primary"
  | fuel + 1 =>
      match tighter with
      | [] => primary fuel idle
      | level :: more => do
          let a ← operation fuel idle more
          operationFrom fuel idle level more a

def operationFrom (fuel : Nat) (idle : Bool) (level : List String) (more : List (List String))
    (a : Int) : Reading Int :=
  match fuel with
  | 0 => fault "expecting primary"
  | fuel + 1 => do
      match ← peek with
      | some (.sign s) =>
          if level.contains s then
            skip
            let b ← operation fuel idle more
            operationFrom fuel idle level more (← if idle then pure b else apply s a b)
          else return a
      | _ => return a

def conjunction (fuel : Nat) (idle : Bool) : Reading Int :=
  match fuel with
  | 0 => fault "expecting primary"
  | fuel + 1 => do
      let a ← operation fuel idle levels.reverse
      if (← peek) = some (.sign "&&") then
        skip
        let b ← conjunction fuel (idle || a == 0)
        return if a ≠ 0 ∧ b ≠ 0 then 1 else 0
      else return a

def disjunction (fuel : Nat) (idle : Bool) : Reading Int :=
  match fuel with
  | 0 => fault "expecting primary"
  | fuel + 1 => do
      let a ← conjunction fuel idle
      if (← peek) = some (.sign "||") then
        skip
        let b ← disjunction fuel (idle || a != 0)
        return if a ≠ 0 ∨ b ≠ 0 then 1 else 0
      else return a

def choice (fuel : Nat) (idle : Bool) : Reading Int :=
  match fuel with
  | 0 => fault "expecting primary"
  | fuel + 1 => do
      let a ← disjunction fuel idle
      if (← peek) = some (.sign "?") then
        skip
        let b ← assignment fuel (idle || a == 0)
        if (← peek) = some (.sign ":") then
          skip
          let c ← choice fuel (idle || a != 0)
          return if a ≠ 0 then b else c
        else fault "expecting \x27:\x27"
      else return a

def assignment (fuel : Nat) (idle : Bool) : Reading Int :=
  match fuel with
  | 0 => fault "expecting primary"
  | fuel + 1 => do
      match (← get).rest with
      | .name name :: .sign s :: _ =>
          match assignment? s with
          | some operator =>
              skip
              skip
              let b ← assignment fuel idle
              if idle then return b
              else
                let n ← if operator = "=" then pure b else apply operator (← valueOf name) b
                modify fun s => { s with values := (name, Octets.ofInt n) :: s.values }
                return n
          | none => choice fuel idle
      | _ => choice fuel idle

end

def evaluate (text : Octets) (values : List (Octets × Octets)) :
    Except Fault (Int × List (Octets × Octets)) := do
  let found := tokens (text.length + 1) text
  let (n, s) ← (assignment (24 * found.length + 24) false).run ⟨found, values⟩
  if s.rest.isEmpty then return (n, s.values) else throw (.expression "expecting EOF")

end LessonAudit.Program.Arithmetic
