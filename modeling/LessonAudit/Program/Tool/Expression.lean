import LessonAudit.Program.Desk
import LessonAudit.Program.Regex
set_option autoImplicit false

namespace LessonAudit.Program.Tool

open Work

structure Words where
  before : Octets
  rest : List Octets

abbrev WordReading := StateT Words (Except Octets)

namespace Expression

def next : WordReading (Option Octets) :=
  return (← get).rest.head?

def advance : WordReading Unit :=
  modify fun w =>
    match w.rest with
    | [] => w
    | word :: rest => ⟨word, rest⟩

def takeOne (words : List String) : WordReading (Option String) := do
  match ← next with
  | none => return none
  | some word =>
      match words.find? fun w => w.toList == word with
      | some w =>
          advance
          return some w
      | none => return none

def missing {α : Type} : WordReading α := do
  throw ("syntax error: missing argument after ".toList ++ Octets.quoted (← get).before)

def isNull (value : Octets) : Bool :=
  let digits := match value with
    | '-' :: rest => if rest.isEmpty then value else rest
    | _ => value
  digits.all (· == '0')

def int? (value : Octets) : Option Int :=
  if value.head? = some '+' then none else Octets.int? value

def number (evaluate : Bool) (value : Octets) : WordReading Int := do
  match int? value with
  | some n => return n
  | none => if evaluate then throw "non-integer argument".toList else return 0

def truth (holds : Bool) : Octets :=
  if holds then ['1'] else ['0']

def hasGroup : Regex → Bool
  | .group .. => true
  | .sequence a b | .either a b => hasGroup a || hasGroup b
  | .repeated _ _ body => hasGroup body
  | _ => false

def matched (text pattern : Octets) : WordReading Octets := do
  let d : Regex.Dialect := ⟨false, false, true, false⟩
  match Regex.read d pattern with
  | .error fault => throw fault.message.toList
  | .ok r =>
      let found := Regex.matchAt? d r ⟨none, text, 0, []⟩
      if hasGroup r then return (found.map fun m => m.group 1).getD []
      else return Octets.ofNat ((found.map fun m => m.octets.length).getD 0)

def indexOfAny (text marks : Octets) : Nat :=
  match text.findIdx? marks.contains with
  | some n => n + 1
  | none => 0

def substring (text first count : Octets) : Octets :=
  match int? first, int? count with
  | some first, some count =>
      if first ≤ 0 || count ≤ 0 then [] else (text.drop (first.toNat - 1)).take count.toNat
  | _, _ => []

def compareWith (operator : String) (a b : Octets) : Bool :=
  let order : Ordering :=
    match int? a, int? b with
    | some m, some n => compare m n
    | _, _ => if a = b then .eq else if Octets.before a b then .lt else .gt
  match operator with
  | "<" => order == .lt
  | "<=" => order != .gt
  | "=" | "==" => order == .eq
  | "!=" => order != .eq
  | ">=" => order != .lt
  | _ => order == .gt

def calculate (evaluate : Bool) (operator : String) (a b : Octets) : WordReading Octets := do
  let m ← number evaluate a
  let n ← number evaluate b
  match operator with
  | "+" => return Octets.ofInt (m + n)
  | "-" => return Octets.ofInt (m - n)
  | "*" => return Octets.ofInt (m * n)
  | _ =>
      if n = 0 then (if evaluate then throw "division by zero".toList else return ['0'])
      else return Octets.ofInt (if operator = "/" then m.tdiv n else m.tmod n)

def operators : Nat → List String
  | 0 => ["|"]
  | 1 => ["&"]
  | 2 => ["<", "<=", "=", "==", "!=", ">=", ">"]
  | 3 => ["+", "-"]
  | 4 => ["*", "/", "%"]
  | _ => [":"]

mutual

def level (fuel : Nat) (evaluate : Bool) (n : Nat) : WordReading Octets :=
  match fuel with
  | 0 => return []
  | fuel + 1 => do
      if 5 < n then single fuel evaluate
      else
        let first ← level fuel evaluate (n + 1)
        further fuel evaluate n first

def further (fuel : Nat) (evaluate : Bool) (n : Nat) (value : Octets) : WordReading Octets :=
  match fuel with
  | 0 => return value
  | fuel + 1 => do
      match ← takeOne (operators n) with
      | none => return value
      | some operator =>
          let needed :=
            match n with
            | 0 => isNull value
            | 1 => !isNull value
            | _ => true
          let other ← level fuel (evaluate && needed) (n + 1)
          let result ←
            match n with
            | 0 =>
                if !isNull value then pure value
                else if isNull other then pure ['0']
                else pure other
            | 1 => pure (if isNull value || isNull other then ['0'] else value)
            | 2 => pure (truth (compareWith operator value other))
            | 5 => if evaluate then matched value other else pure []
            | _ => calculate evaluate operator value other
          further fuel evaluate n result

def single (fuel : Nat) (evaluate : Bool) : WordReading Octets :=
  match fuel with
  | 0 => return []
  | fuel + 1 => do
      match ← next with
      | none => missing
      | some word =>
          advance
          match String.ofList word with
          | "+" =>
              match ← next with
              | none => missing
              | some word =>
                  advance
                  return word
          | "length" => return Octets.ofNat (← single fuel evaluate).length
          | "match" =>
              let text ← single fuel evaluate
              let pattern ← single fuel evaluate
              if evaluate then matched text pattern else return []
          | "index" =>
              let text ← single fuel evaluate
              return Octets.ofNat (indexOfAny text (← single fuel evaluate))
          | "substr" =>
              let text ← single fuel evaluate
              let first ← single fuel evaluate
              return substring text first (← single fuel evaluate)
          | "(" =>
              let value ← level fuel evaluate 0
              match ← next with
              | some [')'] =>
                  advance
                  return value
              | some word =>
                  throw ("syntax error: expecting \x27)\x27 instead of ".toList ++
                    Octets.quoted word)
              | none =>
                  throw ("syntax error: expecting \x27)\x27 after ".toList ++
                    Octets.quoted (← get).before)
          | ")" => throw "syntax error: unexpected \x27)\x27".toList
          | _ => return word

end

def value (words : List Octets) : Except Octets Octets := do
  let (found, w) ← (level (20 * words.length + 20) true 0).run ⟨[], words⟩
  match w.rest with
  | [] => return found
  | word :: _ => throw ("syntax error: unexpected argument ".toList ++ Octets.quoted word)

end Expression

def expr (arguments : List Octets) : Work Unit := do
  let words := if arguments.head? = some ['-', '-'] then arguments.tail else arguments
  if words.isEmpty then misuse "missing operand".toList 2
  else
    match Expression.value words with
    | .error text => complain text 2
    | .ok value =>
        putLine value
        setStatus (if Expression.isNull value then 1 else 0)

end LessonAudit.Program.Tool
