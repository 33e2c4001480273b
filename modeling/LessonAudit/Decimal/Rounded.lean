import LessonAudit.Decimal.Double
set_option autoImplicit false

namespace LessonAudit.Decimal

structure Digits where
  whole : List Char
  fraction : List Char
  power : Int
deriving DecidableEq, Repr

namespace Digits

def ofScaled (n places : Nat) (power : Int) : Digits :=
  let digits := Nat.toDigits 10 n
  let digits := List.replicate (places + 1 - digits.length) '0' ++ digits
  ⟨digits.take (digits.length - places), digits.drop (digits.length - places), power⟩

def fixed (places num den : Nat) : Digits :=
  ofScaled (roundDiv (num * Nat.pow 10 places) den) places 0

def shifted (num den : Nat) (power : Int) : Nat × Nat :=
  if power < 0 then (num * Nat.pow 10 power.natAbs, den) else (num, den * Nat.pow 10 power.natAbs)

def leadingPower (num den : Nat) : Int :=
  let guess : Int := ((Nat.toDigits 10 num).length : Int) - (Nat.toDigits 10 den).length
  let (n, d) := shifted num den guess
  if d ≤ n then guess else guess - 1

def scientific (places num den : Nat) : Digits :=
  if num = 0 then ofScaled 0 places 0
  else
    let power := leadingPower num den
    let (n, d) := shifted num den power
    let scaled := roundDiv (n * Nat.pow 10 places) d
    if scaled = Nat.pow 10 (places + 1) then ofScaled (Nat.pow 10 places) places (power + 1)
    else ofScaled scaled places power

def trimmed (d : Digits) : Digits :=
  { d with fraction := (d.fraction.reverse.dropWhile (· == '0')).reverse }

def general (count num den : Nat) : Digits × Bool :=
  let count := max count 1
  let s := scientific (count - 1) num den
  if -4 ≤ s.power && s.power < count then
    (fixed ((count : Int) - 1 - s.power).toNat num den, false)
  else (s, true)

def write (d : Digits) (point : Bool) : List Char :=
  d.whole ++ (if d.fraction.isEmpty && !point then [] else '.' :: d.fraction)

def writePower (letter : Char) (power : Int) : List Char :=
  let digits := Nat.toDigits 10 power.natAbs
  letter :: (if power < 0 then '-' else '+') :: (List.replicate (2 - digits.length) '0' ++ digits)

end Digits
end LessonAudit.Decimal
