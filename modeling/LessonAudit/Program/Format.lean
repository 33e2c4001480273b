import LessonAudit.Decimal.Rounded
import LessonAudit.Program.Octets
set_option autoImplicit false

namespace LessonAudit.Program.Format

open Decimal (Digits Double)

inductive Dialect where
  | shell
  | tool
deriving DecidableEq, Repr

def letterEscape? (d : Dialect) (c : Char) : Option Char :=
  match c with
  | 'a' => some '\x07'
  | 'b' => some '\x08'
  | 'f' => some '\x0c'
  | 'n' => some '\n'
  | 'r' => some '\r'
  | 't' => some '\t'
  | 'v' => some '\x0b'
  | '\\' => some '\\'
  | 'e' => if d = .tool then some '\x1b' else none
  | _ => none

def octalOctet (digits : Octets) : Octets :=
  [Octets.byte (Octets.valueIn 8 digits)]

def escape (d : Dialect) (cs : List Char) : Octets × Nat :=
  match cs with
  | [] => (['\\'], 0)
  | c :: rest =>
      let octal := (cs.take 3).takeWhile Octets.isOctal
      let hexadecimal := (rest.take 2).takeWhile fun x => (Octets.hexDigit? x).isSome
      if !octal.isEmpty then (octalOctet octal, octal.length)
      else if d = .tool && c == 'x' && !hexadecimal.isEmpty then
        ([Octets.byte (Octets.valueIn 16 hexadecimal)], 1 + hexadecimal.length)
      else if d = .tool && c == '"' then (['"'], 1)
      else
        match letterEscape? d c with
        | some x => ([x], 1)
        | none => (['\\', c], 1)

def textEscape (d : Dialect) (cs : List Char) : Octets × Nat :=
  match cs with
  | '0' :: rest =>
      let octal := (rest.take 3).takeWhile Octets.isOctal
      (octalOctet octal, 1 + octal.length)
  | '"' :: _ => (['\\', '"'], 1)
  | _ => escape d cs

def resolve (escaped : List Char → Octets × Nat) : Nat → Octets → List Char → Octets × Bool
  | 0, done, _ => (done.reverse, false)
  | _ + 1, done, [] => (done.reverse, false)
  | fuel + 1, done, '\\' :: rest =>
      if rest.head? = some 'c' then (done.reverse, true)
      else
        let (octets, count) := escaped rest
        resolve escaped fuel (octets.reverse ++ done) (rest.drop count)
  | fuel + 1, done, c :: rest => resolve escaped fuel (c :: done) rest

def resolved (d : Dialect) (cs : List Char) : Octets × Bool :=
  resolve (textEscape d) (cs.length + 1) [] cs

structure Place where
  left : Bool
  zero : Bool
  plus : Bool
  space : Bool
  alternate : Bool
  width : Nat
  precision : Option Nat
  kind : Char

def leadingInt (cs : Octets) : Int × Octets :=
  let body := cs.dropWhile Octets.isSpace
  let (below, digits) :=
    match body with
    | '-' :: rest => (true, rest)
    | '+' :: rest => (false, rest)
    | _ => (false, body)
  let isHex (c : Char) := (Octets.hexDigit? c).isSome
  let (base, digits) :=
    match digits with
    | '0' :: 'x' :: c :: rest | '0' :: 'X' :: c :: rest =>
        if isHex c then (16, c :: rest) else (10, digits)
    | '0' :: _ => (8, digits)
    | _ => (10, digits)
  let belongs (c : Char) := ((Octets.hexDigit? c).any fun n => decide (n < base))
  let run := digits.takeWhile belongs
  if run.isEmpty then (0, cs)
  else
    let n : Int := Octets.valueIn base run
    (if below then -n else n, digits.drop run.length)

inductive Real where
  | infinite (negative : Bool)
  | nan (negative : Bool)
  | finite (negative : Bool) (num den : Nat)

def leadingReal (cs : Octets) : Real × Octets :=
  let body := cs.dropWhile Octets.isSpace
  let (below, rest) :=
    match body with
    | '-' :: rest => (true, rest)
    | '+' :: rest => (false, rest)
    | _ => (false, body)
  let lower := rest.map Char.toLower
  if "infinity".toList.isPrefixOf lower then (.infinite below, rest.drop 8)
  else if "inf".toList.isPrefixOf lower then (.infinite below, rest.drop 3)
  else if "nan".toList.isPrefixOf lower then (.nan below, rest.drop 3)
  else if "0x".toList.isPrefixOf lower && ((rest.drop 2).head?.bind Octets.hexDigit?).isSome then
    let digits := (rest.drop 2).takeWhile fun c => (Octets.hexDigit? c).isSome
    (.finite below (Octets.valueIn 16 digits) 1, rest.drop (2 + digits.length))
  else
    let whole := rest.takeWhile Char.isDigit
    let after := rest.drop whole.length
    let fraction :=
      match after with
      | '.' :: more => more.takeWhile Char.isDigit
      | _ => []
    if whole.isEmpty && fraction.isEmpty then (.finite false 0 1, cs)
    else
      let after :=
        match after with
        | '.' :: more => more.drop fraction.length
        | _ => after
      let (power, after) : Int × Octets :=
        match after with
        | e :: more =>
            let (sign, digits) :=
              match more with
              | '-' :: digits => (['-'], digits)
              | '+' :: digits => (['+'], digits)
              | digits => (([] : Octets), digits)
            let run := digits.takeWhile Char.isDigit
            if (e == 'e' || e == 'E') && !run.isEmpty then
              let n : Int := Octets.value run
              (if sign = ['-'] then -n else n, digits.drop run.length)
            else (0, after)
        | [] => (0, after)
      let digits := Octets.value (whole ++ fraction)
      match Double.ofDecimal? digits (power - fraction.length) with
      | some x =>
          let (num, den) := x.ratio
          (.finite below num den, after)
      | none => (.infinite below, after)

def signOf (p : Place) (negative : Bool) : Octets :=
  if negative then ['-'] else if p.plus then ['+'] else if p.space then [' '] else []

def placed (p : Place) (zeros : Bool) (sign digits : Octets) : Octets :=
  let missing := p.width - (sign.length + digits.length)
  if p.left then sign ++ digits ++ List.replicate missing ' '
  else if p.zero && zeros then sign ++ List.replicate missing '0' ++ digits
  else List.replicate missing ' ' ++ sign ++ digits

def wholeText (p : Place) (sign : Octets) (base n : Nat) : Octets :=
  let digits := if n = 0 && p.precision = some 0 then [] else Nat.toDigits base n
  let digits := if p.kind = 'X' then digits.map Char.toUpper else digits
  let digits := Octets.padLeft '0' (p.precision.getD 0) digits
  let digits :=
    if p.alternate && base = 8 && digits.head? ≠ some '0' then '0' :: digits else digits
  let sign := if p.alternate && base = 16 && n ≠ 0 then sign ++ ['0', p.kind] else sign
  placed p p.precision.isNone sign digits

def realText (p : Place) (x : Real) : Octets :=
  let upper := p.kind.isUpper
  let cased (cs : Octets) : Octets := if upper then cs.map Char.toUpper else cs
  match x with
  | .infinite negative => placed p false (signOf p negative) (cased "inf".toList)
  | .nan negative => placed p false (signOf p negative) (cased "nan".toList)
  | .finite negative num den =>
      let count := p.precision.getD 6
      let letter := if upper then 'E' else 'e'
      let digits :=
        match p.kind.toLower with
        | 'f' => (Digits.fixed count num den).write p.alternate
        | 'e' =>
            let d := Digits.scientific count num den
            d.write p.alternate ++ Digits.writePower letter d.power
        | _ =>
            let (d, powered) := Digits.general count num den
            let d := if p.alternate then d else d.trimmed
            d.write p.alternate ++ (if powered then Digits.writePower letter d.power else [])
      placed p true (signOf p negative) digits

def textIn (p : Place) (octets : Octets) : Octets :=
  let octets :=
    match p.precision with
    | some count => octets.take count
    | none => octets
  if p.left then Octets.padRight p.width octets else Octets.padLeft ' ' p.width octets

structure State where
  shown : Octets
  arguments : List Octets
  asked : Bool
  complaints : List Octets
  failed : Bool
  ended : Bool

namespace State

def emit (s : State) (octets : Octets) : State :=
  { s with shown := octets.reverse ++ s.shown }

def next (s : State) : Option Octets × State :=
  match s.arguments with
  | [] => (none, { s with asked := true })
  | a :: more => (some a, { s with arguments := more, asked := true })

def complain (s : State) (text : Octets) : State :=
  { s with complaints := text :: s.complaints, failed := true }

def stop (s : State) (text : Octets) : State :=
  { s.complain text with ended := true }

end State

def checkRest (d : Dialect) (argument rest : Octets) (s : State) : State :=
  let shown := if d = .tool then Octets.quoted argument else argument
  let a := if d = .tool then "a " else ""
  let value := if d = .tool then "value " else ""
  if rest.isEmpty then s
  else if rest = argument then s.complain (shown ++ (": expected " ++ a ++ "numeric value").toList)
  else s.complain (shown ++ (": " ++ value ++ "not completely converted").toList)

def leastInt : Int := -0x8000000000000000
def largestInt : Int := 0x7fffffffffffffff
def largestNat : Int := 0xffffffffffffffff

def intOf (d : Dialect) (signed : Bool) (argument : Octets) (s : State) : Int × State :=
  match argument with
  | '\x27' :: rest | '"' :: rest => (((rest.headD '\x00').toNat : Int), s)
  | _ =>
      let (n, rest) := leadingInt argument
      let s :=
        if argument.isEmpty && d = .tool then s.complain "\x27\x27: expected a numeric value".toList
        else checkRest d argument rest s
      let high := if signed then largestInt else largestNat
      let low := if signed then leastInt else -largestNat
      if n < low || high < n then
        let shown := if d = .tool then Octets.quoted argument else argument
        (if n < low then (if signed then low else high) else high,
          s.complain (shown ++ ": Numerical result out of range".toList))
      else (n, s)

def realOf (d : Dialect) (argument : Octets) (s : State) : Real × State :=
  match argument with
  | '\x27' :: rest | '"' :: rest => (.finite false (rest.headD '\x00').toNat 1, s)
  | _ =>
      let (x, rest) := leadingReal argument
      (x, checkRest d argument rest s)

def count (d : Dialect) (cs : List Char) (s : State) : Option Int × List Char × State :=
  match cs with
  | '*' :: rest =>
      let (argument, s) := s.next
      let (n, s) := argument.elim (0, s) fun a => intOf d true a s
      (some n, rest, s)
  | _ =>
      let digits := cs.takeWhile Char.isDigit
      if digits.isEmpty then (none, cs, s)
      else (some (Octets.value digits : Int), cs.drop digits.length, s)

def readPlace (d : Dialect) (cs : List Char) (s : State) : Place × List Char × State :=
  let flags := cs.takeWhile fun c => "#-+ 0".toList.contains c
  let (width, rest, s) := count d (cs.drop flags.length) s
  let (precision, rest, s) : Option Nat × List Char × State :=
    match rest with
    | '.' :: rest =>
        let (n, rest, s) := count d rest s
        let n := n.getD 0
        (if n < 0 then none else some n.toNat, rest, s)
    | _ => (none, rest, s)
  let width := width.getD 0
  let has (c : Char) := flags.contains c
  (⟨has '-' || decide (width < 0), has '0', has '+', has ' ', has '#', width.natAbs, precision,
    rest.headD ' '⟩, rest, s)

def showArgument? (d : Dialect) (p : Place) (s : State) : Option State :=
  let whole (signed : Bool) (base : Nat) : State :=
    let (argument, s) := s.next
    let (n, s) := argument.elim (0, s) fun a => intOf d signed a s
    if signed then s.emit (wholeText p (signOf p (decide (n < 0))) base n.natAbs)
    else s.emit (wholeText p [] base (n % (largestNat + 1)).toNat)
  match p.kind with
  | 's' =>
      let (argument, s) := s.next
      some (s.emit (textIn p (argument.getD [])))
  | 'b' =>
      let (argument, s) := s.next
      let (octets, ended) := resolved d (argument.getD [])
      let s := s.emit (textIn p octets)
      some (if ended then { s with ended := true } else s)
  | 'c' =>
      let (argument, s) := s.next
      let c := (argument.getD []).headD '\x00'
      some (s.emit (textIn { p with precision := none }
        (if d = .tool && (argument.getD []).isEmpty then [] else [c])))
  | 'd' | 'i' => some (whole true 10)
  | 'u' => some (whole false 10)
  | 'o' => some (whole false 8)
  | 'x' | 'X' => some (whole false 16)
  | 'e' | 'E' | 'f' | 'F' | 'g' | 'G' =>
      let (argument, s) := s.next
      let (x, s) := argument.elim (.finite false 0 1, s) fun a => realOf d a s
      some (s.emit (realText p x))
  | _ => none

def pass (d : Dialect) : Nat → List Char → State → State
  | 0, _, s => s
  | _ + 1, [], s => s
  | fuel + 1, '\\' :: rest, s =>
      if d = .tool && rest.head? = some 'c' then { s with ended := true }
      else
        let (octets, count) := escape d rest
        pass d fuel (rest.drop count) (s.emit octets)
  | fuel + 1, '%' :: '%' :: rest, s => pass d fuel rest (s.emit ['%'])
  | fuel + 1, '%' :: cs, s =>
      let (p, rest, s) := readPlace d cs s
      let text := '%' :: cs.take (cs.length - rest.length + 1)
      match rest, showArgument? d p s with
      | [], _ =>
          s.stop (if d = .tool then text ++ ": invalid conversion specification".toList
            else "missing format character".toList)
      | _ :: rest, some s => if s.ended then s else pass d fuel rest s
      | _ :: _, none =>
          s.stop (text ++ (if d = .tool then ": invalid conversion specification".toList
            else ": invalid directive".toList))
  | fuel + 1, c :: rest, s => pass d fuel rest (s.emit [c])

def passes (d : Dialect) (format : List Char) : Nat → State → State
  | 0, s => s
  | fuel + 1, s =>
      let s := pass d (format.length + 1) format { s with asked := false }
      if s.ended || s.arguments.isEmpty then s
      else if s.asked then passes d format fuel s
      else if d = .tool then
        let warning := "warning: ignoring excess arguments, starting with ".toList ++
          Octets.quoted (s.arguments.headD [])
        { s with complaints := warning :: s.complaints }
      else s

def fill (d : Dialect) (format : List Char) (arguments : List Octets) : State :=
  passes d format (arguments.length + 1) ⟨[], arguments, false, [], false, false⟩

end LessonAudit.Program.Format
