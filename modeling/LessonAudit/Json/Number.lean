import LessonAudit.Decimal.Layout
set_option autoImplicit false

namespace LessonAudit.Json

open Decimal (Double Layout)

inductive Number where
  | natural (n : Nat)
  | negative (n : Nat)
  | double (x : Double)
deriving DecidableEq, Repr

namespace Number

def naturalLimit : Nat := 0x10000000000000000

def negativeLimit : Nat := 0x8000000000000000

def layout : Layout := ⟨-5, 15, true⟩

def write : Number → List Char
  | natural n => Nat.toDigits 10 n
  | negative n => '-' :: Nat.toDigits 10 n
  | double x => x.write layout

def digitValue (c : Char) : Nat :=
  c.toNat - '0'.toNat

/-- Gathers digits behind `significand`. The first digit that would leave 64 bits is dropped with
all after it; the second component counts the dropped ones. -/
def gather (significand : Nat) : List Char → Nat × Nat
  | [] => (significand, 0)
  | c :: cs =>
      if significand * 10 + digitValue c < naturalLimit then
        gather (significand * 10 + digitValue c) cs
      else (significand, cs.length + 1)

def powerOfTen (n : Nat) : Double :=
  Double.ofNat (Nat.pow 10 n)

def scaleDown (x : Double) (places : Nat) : Double :=
  if places ≤ 308 then (x.div? (powerOfTen places)).getD x
  else if x.isZero then x
  else scaleDown ((x.div? (powerOfTen 308)).getD x) (places - 308)
termination_by places

def scale (negative : Bool) (significand : Nat) (exponent : Int) : Option Double :=
  let x := Double.ofNat significand
  let scaled :=
    if exponent < 0 then some (scaleDown x exponent.natAbs)
    else if exponent ≤ 308 then x.mul? (powerOfTen exponent.natAbs)
    else if x.isZero then some x
    else none
  scaled.map fun y => y.withSign negative

def ofLiteral (negative : Bool) (whole fraction : List Char) (exponent : Option Int) :
    Option Number :=
  let (significand, dropped) := gather 0 whole
  if fraction.isEmpty && exponent.isNone && dropped == 0 then
    if !negative then some (natural significand)
    else if 0 < significand ∧ significand ≤ negativeLimit then some (.negative significand)
    else (scale true significand 0).map double
  else
    let (significand, droppedAfter) := gather significand fraction
    let places : Int := (dropped : Int) - ((fraction.length - droppedAfter : Nat) : Int)
    (scale negative significand (places + exponent.getD 0)).map double

end Number
end LessonAudit.Json
