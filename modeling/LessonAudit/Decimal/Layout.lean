import LessonAudit.Decimal.Shortest
set_option autoImplicit false

namespace LessonAudit.Decimal

structure Layout where
  least : Int
  most : Int
  signed : Bool

namespace Layout

def inPlace (digits : List Char) (exponent : Int) : List Char :=
  if exponent < 0 then
    '0' :: '.' :: (List.replicate (exponent.natAbs - 1) '0' ++ digits)
  else
    let places := exponent.natAbs + 1
    let whole := digits.take places ++ List.replicate (places - digits.length) '0'
    match digits.drop places with
    | [] => whole ++ ['.', '0']
    | fraction => whole ++ '.' :: fraction

def exponentSign (layout : Layout) (exponent : Int) : List Char :=
  if exponent < 0 then ['-'] else if layout.signed then ['+'] else []

def withExponent (layout : Layout) (digits : List Char) (exponent : Int) : List Char :=
  let mantissa :=
    match digits with
    | [] => ['0']
    | [d] => [d]
    | d :: more => d :: '.' :: more
  mantissa ++ 'e' :: (layout.exponentSign exponent ++ Nat.toDigits 10 exponent.natAbs)

def write (layout : Layout) (d : Scientific) : List Char :=
  if layout.least ≤ d.exponent ∧ d.exponent ≤ layout.most then inPlace d.digits d.exponent
  else layout.withExponent d.digits d.exponent

end Layout

def Double.write (x : Double) (layout : Layout) : List Char :=
  let sign := if x.negative then ['-'] else []
  sign ++ if x.isZero then ['0', '.', '0'] else layout.write x.shortest

end LessonAudit.Decimal
