set_option autoImplicit false

namespace LessonAudit.Decimal

/-- The number `± mantissa · 2 ^ exponent`. The mantissa has at most 53 bits; it has exactly 53
unless the exponent is the least one, `-1074`. -/
structure Double where
  negative : Bool
  mantissa : Nat
  exponent : Int
deriving DecidableEq, Repr

def roundDiv (num den : Nat) : Nat :=
  let quotient := num / den
  let twice := 2 * (num % den)
  if twice < den then quotient
  else if den < twice then quotient + 1
  else quotient + quotient % 2

namespace Double

def zero : Double := ⟨false, 0, -1074⟩

def isZero (x : Double) : Bool :=
  x.mantissa == 0

def withSign (x : Double) (negative : Bool) : Double :=
  { x with negative := negative }

def unscaled (num den : Nat) (exponent : Int) : Nat × Nat :=
  let power := Nat.pow 2 exponent.natAbs
  if exponent < 0 then (num * power, den) else (num, den * power)

def mantissaLimit : Nat := 0x20000000000000

def mantissaLeast : Nat := 0x10000000000000

def exponentFor (num den : Nat) : Int :=
  let low : Int := (num.log2 : Int) - den.log2 - 53
  let (n, d) := unscaled num den low
  max (if n / d < mantissaLimit then low else low + 1) (-1074)

/-- The double nearest to `num / den`, even on a tie; `none` above the largest double. -/
def ofRatio? (num den : Nat) : Option Double :=
  if num = 0 then some zero
  else
    let exponent := exponentFor num den
    let (n, d) := unscaled num den exponent
    let mantissa := roundDiv n d
    let carried : Double :=
      if mantissa = mantissaLimit then ⟨false, mantissaLeast, exponent + 1⟩
      else ⟨false, mantissa, exponent⟩
    if carried.exponent > 971 then none else some carried

def ratio (x : Double) : Nat × Nat :=
  unscaled x.mantissa 1 (-x.exponent)

def mul? (x y : Double) : Option Double :=
  let (a, b) := x.ratio
  let (c, d) := y.ratio
  ofRatio? (a * c) (b * d)

def div? (x y : Double) : Option Double :=
  let (a, b) := x.ratio
  let (c, d) := y.ratio
  ofRatio? (a * d) (b * c)

def ofNat (n : Nat) : Double :=
  (ofRatio? n 1).getD zero

def ofDecimal? (digits : Nat) (exponent : Int) : Option Double :=
  if digits = 0 then some zero
  else
    let leading := ((Nat.toDigits 10 digits).length : Int) + exponent
    if leading > 310 then none
    else if leading < -400 then some zero
    else if exponent < 0 then ofRatio? digits (Nat.pow 10 exponent.natAbs)
    else ofRatio? (digits * Nat.pow 10 exponent.natAbs) 1

end Double
end LessonAudit.Decimal
