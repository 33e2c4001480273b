import LessonAudit.Decimal.Double
set_option autoImplicit false

namespace LessonAudit.Decimal

structure Scientific where
  digits : List Char
  exponent : Int
deriving DecidableEq, Repr

namespace Shortest

/-- The numbers that round to a double, as quarters of its last place: everything from `low` to
`high`, the ends included if `closed`; all times `num / den`. -/
structure Band where
  low : Nat
  mid : Nat
  high : Nat
  closed : Bool
  num : Nat
  den : Nat

def band (x : Double) : Band :=
  let quarters := 4 * x.mantissa
  let lower := if x.mantissa = Double.mantissaLeast ∧ x.exponent > -1074 then 1 else 2
  let (num, den) := Double.unscaled 1 1 (2 - x.exponent)
  ⟨quarters - lower, quarters, quarters + 2, x.mantissa % 2 == 0, num, den⟩

def Band.sides (b : Band) (n decimal : Nat) (power : Int) : Nat × Nat :=
  let scale := Nat.pow 10 power.natAbs
  if power < 0 then (n * b.num * scale, decimal * b.den)
  else (n * b.num, decimal * b.den * scale)

def Band.holds (b : Band) (decimal : Nat) (power : Int) : Bool :=
  let (low, left) := b.sides b.low decimal power
  let (high, right) := b.sides b.high decimal power
  if b.closed then decide (low ≤ left) && decide (right ≤ high)
  else decide (low < left) && decide (right < high)

/-- Of the two decimals around the double on the grid `10 ^ power` the one that rounds to it, the
nearer if both do; a tie goes to the even one. -/
def Band.pick? (b : Band) (power : Int) : Option Nat :=
  let (value, unit) := b.sides b.mid 1 power
  let below := value / unit
  let above := below + 1
  match b.holds below power, b.holds above power with
  | true, true =>
      let rest := 2 * (value % unit)
      some (if rest < unit then below else if unit < rest then above else below + below % 2)
  | true, false => some below
  | false, true => some above
  | false, false => none

def decimalLength (n : Nat) : Nat :=
  (Nat.toDigits 10 n).length

def leadingPlace (num den : Nat) : Int :=
  let place : Int := (decimalLength num : Int) - decimalLength den
  let reached :=
    if place < 0 then decide (den ≤ num * Nat.pow 10 place.natAbs)
    else decide (den * Nat.pow 10 place.natAbs ≤ num)
  if reached then place else place - 1

end Shortest

def Double.shortest (x : Double) : Scientific :=
  let b := Shortest.band x
  let place := Shortest.leadingPlace (b.mid * b.num) b.den
  let found := (List.range 17).findSome? fun (more : Nat) =>
    let power := place - (more : Int)
    (b.pick? power).map fun decimal => (decimal, power)
  let (decimal, power) := found.getD (0, 0)
  let digits := Nat.toDigits 10 decimal
  let trimmed := (digits.reverse.dropWhile (· == '0')).reverse
  ⟨trimmed, power + (digits.length : Int) - 1⟩

end LessonAudit.Decimal
