import LessonAudit.Json.Number
import LessonAudit.Json.Value
import LessonAudit.Text.Blank
set_option autoImplicit false

namespace LessonAudit.Yaml

open Json (Value Number)
open Decimal (Double)

namespace Typing

def isNull (lower : List Char) : Bool :=
  lower == [] || lower == ['~'] || lower == "null".toList

def flag? (lower : List Char) : Option Bool :=
  if ["true", "yes", "y", "on"].any fun word => word.toList == lower then some true
  else if ["false", "no", "n", "off"].any fun word => word.toList == lower then some false
  else none

def signed (cs : List Char) : Bool × List Char :=
  match cs with
  | '-' :: rest => (true, rest)
  | '+' :: rest => (false, rest)
  | _ => (false, cs)

def digitValue? (base : Nat) (c : Char) : Option Nat :=
  let n :=
    if '0' ≤ c ∧ c ≤ '9' then c.toNat - 48
    else if 'a' ≤ c ∧ c ≤ 'z' then c.toNat - 87
    else if 'A' ≤ c ∧ c ≤ 'Z' then c.toNat - 55
    else base
  if n < base then some n else none

def digits? (base : Nat) (cs : List Char) : Option Nat :=
  match cs.filter (· != '_') with
  | [] => none
  | digits =>
      digits.foldl (fun n c => n.bind fun n => (digitValue? base c).map fun d => n * base + d)
        (some 0)

def magnitude? (cs : List Char) : Option Nat :=
  match cs with
  | '0' :: 'x' :: rest | '0' :: 'X' :: rest => digits? 16 rest
  | '0' :: 'o' :: rest | '0' :: 'O' :: rest => digits? 8 rest
  | '0' :: 'b' :: rest | '0' :: 'B' :: rest => digits? 2 rest
  | _ => digits? 10 cs

def whole? (cs : List Char) : Option Number :=
  let (below, rest) := signed cs
  (magnitude? rest).bind fun n =>
    if below && n != 0 then (if n ≤ Number.negativeLimit then some (.negative n) else none)
    else if n < Number.naturalLimit then some (.natural n) else none

def decimal? (cs : List Char) : Option (Nat × Int) :=
  let wholeDigits := cs.takeWhile Char.isDigit
  let rest := cs.dropWhile Char.isDigit
  let fraction :=
    match rest with
    | '.' :: more => more.takeWhile Char.isDigit
    | _ => []
  let rest :=
    match rest with
    | '.' :: more => more.dropWhile Char.isDigit
    | _ => rest
  match digits? 10 (wholeDigits ++ fraction) with
  | none => none
  | some digits =>
      match rest with
      | [] => some (digits, -(fraction.length : Int))
      | e :: power =>
          let (below, power) := signed power
          if (e == 'e' || e == 'E') && power.all Char.isDigit then
            (digits? 10 power).map fun n =>
              (digits, (if below then -(n : Int) else (n : Int)) - (fraction.length : Int))
          else none

def double? (cs : List Char) : Option Value :=
  let (below, rest) := signed cs
  let word := rest.map Char.toLower
  let isOne (words : List String) := words.any fun w => w.toList == word
  let infinite : Value := .text (if below then "-.inf" else ".inf")
  if isOne ["inf", "infinity", ".inf"] then some infinite
  else if isOne ["nan", ".nan"] then some (.text ".nan")
  else
    (decimal? rest).map fun (digits, exponent) =>
      match Double.ofDecimal? digits exponent with
      | some x => .number (.double (x.withSign below))
      | none => infinite

end Typing

def plainValue (text : String) : Value :=
  let cs := Text.trim text.toList
  if Typing.isNull (text.toList.map Char.toLower) then .null
  else
    match Typing.flag? (cs.map Char.toLower) with
    | some b => .flag b
    | none =>
        match Typing.whole? cs with
        | some n => .number n
        | none => (Typing.double? cs).getD (.text text)

end LessonAudit.Yaml
