import LessonAudit.Program.Desk
import LessonAudit.Program.Format
set_option autoImplicit false

namespace LessonAudit.Program.Tool

open Work
open Decimal (Digits)

def echo (arguments : List Octets) : Work Unit := do
  let isOption (a : Octets) :=
    match a with
    | '-' :: letters => !letters.isEmpty && letters.all fun c => "neE".toList.contains c
    | _ => false
  let options := arguments.takeWhile isOption
  let letters := options.flatMap fun a => a.drop 1
  let text := Octets.joined [' '] (arguments.drop options.length)
  let escapes := (letters.filter fun c => c == 'e' || c == 'E').getLast? == some 'e'
  let (octets, ended) := if escapes then Format.resolved .tool text else (text, false)
  put (if letters.contains 'n' || ended then octets else octets ++ ['\n'])

def printf (arguments : List Octets) : Work Unit := do
  let arguments := if arguments.head? = some ['-', '-'] then arguments.tail else arguments
  match arguments with
  | [] => misuse "missing operand".toList 1
  | format :: more =>
      let filled := Format.fill .tool format more
      filled.complaints.reverse.forM report
      put filled.shown.reverse
      setStatus (if filled.failed then 1 else 0)

def yesCount : Nat := 524288

def yes (arguments : List Octets) : Work Unit := do
  withOptions 1 ⟨"", "", [], true⟩ arguments fun _ words => do
    let line := if words.isEmpty then ['y'] else Octets.joined [' '] words
    put ((List.replicate (yesCount / (line.length + 1) + 1) (line ++ ['\n'])).flatten)

structure Decimal where
  scaled : Int
  places : Nat

def tenPower? (text : Octets) : Option Int :=
  match text with
  | [] => some 0
  | 'e' :: digits | 'E' :: digits => Octets.int? digits
  | _ => none

def Decimal.shifted (d : Decimal) (power : Int) : Decimal :=
  if power < 0 then ⟨d.scaled, d.places + power.natAbs⟩
  else
    let count := min power.toNat d.places
    ⟨d.scaled * (Nat.pow 10 (power.toNat - count) : Nat), d.places - count⟩

def Decimal.ofText? (text : Octets) : Option Decimal :=
  let body := text.dropWhile Octets.isSpace
  let (below, rest) :=
    match body with
    | '-' :: rest => (true, rest)
    | '+' :: rest => (false, rest)
    | _ => (false, body)
  let whole := rest.takeWhile Char.isDigit
  let (digits, behind) :=
    match rest.drop whole.length with
    | '.' :: more =>
        let digits := more.takeWhile Char.isDigit
        (digits, more.drop digits.length)
    | more => (([] : Octets), more)
  if whole.isEmpty && digits.isEmpty then none
  else
    let n : Int := Octets.value (whole ++ digits)
    (tenPower? behind).bind fun power =>
      if power.natAbs < 400 then some (shifted ⟨if below then -n else n, digits.length⟩ power)
      else none

def Decimal.at (d : Decimal) (places : Nat) : Int :=
  d.scaled * (Nat.pow 10 (places - d.places) : Nat)

def decimalText (places : Nat) (n : Int) : Octets :=
  let digits := Octets.padLeft '0' (places + 1) (Octets.ofNat n.natAbs)
  let whole := digits.take (digits.length - places)
  let fraction := digits.drop (digits.length - places)
  (if n < 0 then ['-'] else []) ++ whole ++ (if places = 0 then [] else '.' :: fraction)

def countUp (step last : Int) : Nat → Int → List Int
  | 0, _ => []
  | fuel + 1, n =>
      if (0 < step && last < n) || (step < 0 && n < last) then []
      else n :: countUp step last fuel (n + step)

def isWordOption (a : Octets) : Bool :=
  match a with
  | '-' :: c :: _ => !(c.isDigit || c == '.')
  | _ => false

def endless : Decimal := ⟨Nat.pow 10 30, 0⟩

def seq (arguments : List Octets) : Work Unit := do
  let (given, numbers) :=
    let given := arguments.takeWhile isWordOption
    let valued := match given.getLast? with
      | some ['-', 's'] | some ['-', 'f'] => 1
      | _ => 0
    (arguments.take (given.length + valued), arguments.drop (given.length + valued))
  let o : Options := ⟨"w", "sf", [("equal-width", 'w'), ("separator", 's'), ("format", 'f')], true⟩
  withOptions 1 o given fun flags others => do
    let numbers := others ++ numbers
    let number? (text : Octets) : Option Decimal :=
      if ["inf", "infinity"].contains (String.ofList (text.map Char.toLower)) then some endless
      else Decimal.ofText? text
    let bad := numbers.find? fun text => (number? text).isNone
    match bad with
    | some text => misuse ("invalid floating point argument: ".toList ++ Octets.quoted text) 1
    | none =>
        let found := numbers.filterMap number?
        let one : Decimal := ⟨1, 0⟩
        let row : Option (Decimal × Decimal × Decimal) :=
          match found with
          | [last] => some (one, one, last)
          | [first, last] => some (first, one, last)
          | [first, step, last] => some (first, step, last)
          | _ => none
        match row with
        | none =>
            if found.isEmpty then misuse "missing operand".toList 1
            else misuse ("extra operand ".toList ++ Octets.quoted (numbers.getD 3 [])) 1
        | some (first, step, last) =>
            if step.scaled = 0 then
              misuse ("invalid Zero increment value: ".toList ++
                Octets.quoted (numbers.getD 1 [])) 1
            else
              let inner := max first.places step.places
              let places := max inner last.places
              let values := countUp (step.at places) (last.at places) 1000000 (first.at places)
              let finer : Nat := Nat.pow 10 (places - inner)
              let texts := values.map fun n => decimalText inner (n / finer)
              let width := (texts.map List.length).foldl max 0
              let widened (text : Octets) : Octets :=
                match text with
                | '-' :: digits => '-' :: Octets.padLeft '0' (width - 1) digits
                | digits => Octets.padLeft '0' width digits
              let texts :=
                match Flag.last? flags 'f' with
                | some format =>
                    texts.map fun text => (Format.fill .tool format [text]).shown.reverse
                | none => if Flag.given flags 'w' then texts.map widened else texts
              let mark := (Flag.last? flags 's').getD ['\n']
              if texts.isEmpty then return ()
              else putLine (Octets.joined mark texts)

def withoutSlashes (path : Octets) : Octets :=
  let body := (path.reverse.dropWhile (· == '/')).reverse
  if body.isEmpty && !path.isEmpty then ['/'] else body

def lastPiece (path : Octets) : Octets :=
  let body := withoutSlashes path
  if body = ['/'] then body else (body.reverse.takeWhile (· != '/')).reverse

def withoutLast (path : Octets) : Octets :=
  let body := withoutSlashes path
  if body = ['/'] then body
  else
    match body.reverse.dropWhile (· != '/') with
    | [] => ['.']
    | rest => withoutSlashes rest.reverse

def withoutEnd (ending name : Octets) : Octets :=
  if ending.isSuffixOf name && name ≠ ending then name.take (name.length - ending.length) else name

def basename (arguments : List Octets) : Work Unit := do
  let o : Options :=
    ⟨"az", "s", [("multiple", 'a'), ("suffix", 's'), ("zero", 'z')], true⟩
  withOptions 1 o arguments fun flags names => do
    let mark := if Flag.given flags 'z' then '\x00' else '\n'
    let several := Flag.given flags 'a' || Flag.given flags 's'
    match names with
    | [] => misuse "missing operand".toList 1
    | [name] =>
        put (withoutEnd ((Flag.last? flags 's').getD []) (lastPiece name) ++ [mark])
    | _ =>
        if several then
          names.forM fun name =>
            put (withoutEnd ((Flag.last? flags 's').getD []) (lastPiece name) ++ [mark])
        else
          match names with
          | [name, ending] => put (withoutEnd ending (lastPiece name) ++ [mark])
          | _ =>
              misuse ("extra operand ".toList ++ Octets.quoted (names.getD 2 [])) 1

def dirname (arguments : List Octets) : Work Unit := do
  withOptions 1 ⟨"z", "", [("zero", 'z')], true⟩ arguments fun flags names => do
    let mark := if Flag.given flags 'z' then '\x00' else '\n'
    if names.isEmpty then misuse "missing operand".toList 1
    else names.forM fun name => put (withoutLast name ++ [mark])

def printEnvironment (arguments : List Octets) : Work Unit := do
  withOptions 2 ⟨"0", "", [("null", '0')], true⟩ arguments fun flags names => do
    let environment := (← get).environment
    let mark := if flags.isEmpty then '\n' else '\x00'
    if names.isEmpty then
      environment.forM fun (name, value) => put (name ++ '=' :: value ++ [mark])
    else
      for name in names do
        match environment.lookup name with
        | some value => put (value ++ [mark])
        | none => setStatus 1

def factorsFrom : Nat → Nat → Nat → List Nat
  | 0, _, n => if n < 2 then [] else [n]
  | fuel + 1, d, n =>
      if n < 2 then []
      else if n < d * d then [n]
      else if n % d = 0 then d :: factorsFrom fuel d (n / d)
      else factorsFrom fuel (if d = 2 then 3 else d + 2) n

def divisorLimit : Nat := 2000000

def factor (arguments : List Octets) : Work Unit := do
  withOptions 1 ⟨"h", "", [("exponents", 'h')], false⟩ arguments fun flags others => do
    let words ←
      if others.isEmpty then
        pure ((Octets.lines (← takeInput)).flatMap fun line =>
          (Octets.pieces ' ' line).filter fun word => !word.isEmpty)
      else pure others
    words.forM fun word => do
      let digits := if word.head? = some '+' then word.tail else word
      if Octets.isDecimal digits then
        let n := Octets.value digits
        let found := factorsFrom divisorLimit 2 n
        let shown : List Octets :=
          if Flag.given flags 'h' then
            found.eraseDups.map fun p =>
              let count := found.count p
              Octets.ofNat p ++ (if count = 1 then [] else '^' :: Octets.ofNat count)
          else found.map Octets.ofNat
        putLine (Octets.ofNat n ++ ':' :: shown.flatMap fun text => ' ' :: text)
      else
        complain (Octets.quoted word ++ " is not a valid positive integer".toList) 1

end LessonAudit.Program.Tool
