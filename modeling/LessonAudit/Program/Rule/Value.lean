import LessonAudit.Program.Format
set_option autoImplicit false

namespace LessonAudit.Program.Rule

open Decimal (Double)

inductive Value where
  | unset
  | number (x : Float)
  | text (octets : Octets)
  | input (octets : Octets)
deriving Inhabited

def realOf (x : Float) : Format.Real :=
  let bits := x.toBits.toNat
  let negative := decide (0x8000000000000000 ≤ bits)
  let exponent := bits / 0x10000000000000 % 2048
  let fraction := bits % 0x10000000000000
  if exponent = 2047 then if fraction = 0 then .infinite negative else .nan negative
  else
    let mantissa := if exponent = 0 then fraction else fraction + 0x10000000000000
    let (num, den) := (⟨negative, mantissa, (max exponent 1 : Int) - 1075⟩ : Double).ratio
    .finite negative num den

def floatOf : Format.Real → Float
  | .infinite negative => if negative then -1.0 / 0.0 else 1.0 / 0.0
  | .nan _ => 0.0 / 0.0
  | .finite negative num den =>
      let x := Float.ofNat num / Float.ofNat den
      if negative then -x else x

def leadingFloat (text : Octets) : Float :=
  floatOf (Format.leadingReal text).1

def looksLike? (text : Octets) : Option Float :=
  let body := text.dropWhile Octets.isSpace
  let body := (body.reverse.dropWhile Octets.isSpace).reverse
  let isStart (c : Char) : Bool := c.isDigit || "+-.".toList.contains c
  let isEnd (c : Char) : Bool := c.isDigit || c == '.'
  if body.head?.any isStart && body.getLast?.any isEnd then
    let (x, rest) := Format.leadingReal body
    if rest.isEmpty then some (floatOf x) else none
  else none

def wholeOf? (x : Float) : Option Int :=
  match realOf x with
  | .finite negative num den =>
      if num % den = 0 then
        let n : Int := num / den
        some (if negative then -n else n)
      else none
  | _ => none

def clampedOf (x : Float) : Int :=
  match realOf x with
  | .finite negative num den =>
      let n : Int := num / den
      if negative then max (-n) Format.leastInt else min n Format.largestNat
  | .infinite negative => if negative then Format.leastInt else Format.largestNat
  | .nan _ => Format.leastInt

def numberIn (p : Format.Place) (x : Float) : Octets :=
  let shown (base : Nat) (signed : Bool) : Octets :=
    let n := clampedOf x
    if signed then
      Format.wholeText p (Format.signOf p (decide (n < 0))) base n.natAbs
    else Format.wholeText p [] base (n % (Format.largestNat + 1)).toNat
  match p.kind with
  | 'd' | 'i' => shown 10 true
  | 'u' => shown 10 false
  | 'o' => shown 8 false
  | 'x' | 'X' => shown 16 false
  | _ => Format.realText p (realOf x)

def numberText (format : Octets) (x : Float) : Octets :=
  match wholeOf? x with
  | some n =>
      if n < Format.leastInt || Format.largestNat + 1 < n then inFormat else
        Octets.ofInt (min n Format.largestNat)
  | none => inFormat
where
  inFormat : Octets :=
    let before := format.takeWhile (· != '%')
    let s : Format.State := ⟨[], [], false, [], false, false⟩
    let (p, rest, _) := Format.readPlace .tool ((format.drop before.length).drop 1) s
    before ++ numberIn p x ++ rest.drop 1

namespace Value

def toFloat : Value → Float
  | unset => 0.0
  | number x => x
  | text t | input t => leadingFloat t

def toText (format : Octets) : Value → Octets
  | unset => []
  | number x => numberText format x
  | text t | input t => t

def numeric? : Value → Option Float
  | unset => some 0.0
  | number x => some x
  | text _ => none
  | input t => looksLike? t

def isTrue : Value → Bool
  | unset => false
  | number x => x != 0.0
  | text t => !t.isEmpty
  | input t =>
      match looksLike? t with
      | some x => x != 0.0
      | none => !t.isEmpty

def ofBool (b : Bool) : Value :=
  .number (if b then 1.0 else 0.0)

def ofNat (n : Nat) : Value :=
  .number (Float.ofNat n)

def ofInt (n : Int) : Value :=
  .number (Float.ofInt n)

def less (format : Octets) (a b : Value) : Bool :=
  match a.numeric?, b.numeric? with
  | some x, some y => x < y
  | _, _ => Octets.before (a.toText format) (b.toText format)

def same (format : Octets) (a b : Value) : Bool :=
  match a.numeric?, b.numeric? with
  | some x, some y => x == y
  | _, _ => a.toText format == b.toText format

end Value
end LessonAudit.Program.Rule
