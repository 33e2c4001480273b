import LessonAudit.Program.Desk
set_option autoImplicit false

namespace LessonAudit.Program.Tool

open Work

structure Day where
  year : Int
  month : Nat
  day : Nat
  yearDay : Nat
  weekDay : Nat
deriving DecidableEq, Repr

def isLeap (year : Int) : Bool :=
  (year % 4 == 0 && year % 100 != 0) || year % 400 == 0

def monthLengths (year : Int) : List Nat :=
  [31, if isLeap year then 29 else 28, 31, 30, 31, 30, 31, 31, 30, 31, 30, 31]

def monthWithDay (month : Nat) : List Nat → Nat → Nat × Nat
  | [], n => (month, n + 1)
  | length :: more, n =>
      if n < length then (month, n + 1) else monthWithDay (month + 1) more (n - length)

def Day.ofNumber (n : Int) : Day :=
  let cycle := n.fdiv 146097
  let inCycle := (n.fmod 146097).toNat
  let (year, rest) := (List.range 400).foldl
    (fun (year, rest) _ =>
      let length := if isLeap (1970 + year) then 366 else 365
      if length ≤ rest then (year + 1, rest - length) else (year, rest))
    ((0, inCycle) : Nat × Nat)
  let year : Int := 1970 + 400 * cycle + year
  let (month, day) := monthWithDay 1 (monthLengths year) rest
  ⟨year, month, day, rest + 1, (n + 4).fmod 7 |>.toNat⟩

def weekDays : List String :=
  ["Sunday", "Monday", "Tuesday", "Wednesday", "Thursday", "Friday", "Saturday"]

def months : List String :=
  ["January", "February", "March", "April", "May", "June", "July", "August", "September",
    "October", "November", "December"]

def timeIn (seconds : Int) : Nat → Octets → Octets
  | 0, _ => []
  | fuel + 1, format =>
      let day := Day.ofNumber (seconds.fdiv 86400)
      let inDay := (seconds.fmod 86400).toNat
      let hour := inDay / 3600
      let short := if hour % 12 = 0 then 12 else hour % 12
      let padded (mark : Char) (width n : Nat) : Octets :=
        Octets.padLeft mark width (Octets.ofNat n)
      let two (n : Nat) : Octets := padded '0' 2 n
      let year := Octets.ofInt day.year
      let again (text : String) : Octets := timeIn seconds fuel text.toList
      match format with
      | '%' :: c :: rest =>
          let shown : Octets :=
            match c with
            | 'a' => (weekDays.getD day.weekDay "").toList.take 3
            | 'A' => (weekDays.getD day.weekDay "").toList
            | 'b' | 'h' => (months.getD (day.month - 1) "").toList.take 3
            | 'B' => (months.getD (day.month - 1) "").toList
            | 'C' => two (day.year / 100).toNat
            | 'd' => two day.day
            | 'e' => padded ' ' 2 day.day
            | 'H' => two hour
            | 'I' => two short
            | 'k' => padded ' ' 2 hour
            | 'l' => padded ' ' 2 short
            | 'j' => padded '0' 3 day.yearDay
            | 'm' => two day.month
            | 'M' => two (inDay / 60 % 60)
            | 'S' => two (inDay % 60)
            | 'p' => if hour < 12 then "AM".toList else "PM".toList
            | 's' => Octets.ofInt seconds
            | 'N' => "000000000".toList
            | 'u' => Octets.ofNat (if day.weekDay = 0 then 7 else day.weekDay)
            | 'w' => Octets.ofNat day.weekDay
            | 'y' => two (day.year % 100).toNat
            | 'Y' => year
            | 'Z' => "UTC".toList
            | 'z' => "+0000".toList
            | 'c' => again "%a %b %e %H:%M:%S %Y"
            | 'D' | 'x' => again "%m/%d/%y"
            | 'F' => again "%Y-%m-%d"
            | 'R' => again "%H:%M"
            | 'T' | 'X' => again "%H:%M:%S"
            | 'r' => again "%I:%M:%S %p"
            | 'n' => ['\n']
            | 't' => ['\t']
            | '%' => ['%']
            | other => ['%', other]
          shown ++ timeIn seconds fuel rest
      | c :: rest => c :: timeIn seconds fuel rest
      | [] => []

def timeOf? (text : Octets) : Option Int :=
  match text with
  | '@' :: digits => Octets.int? digits
  | _ => if ["now", "today", ""].contains (String.ofList text) then some 0 else none

def date (arguments : List Octets) : Work Unit := do
  let o : Options :=
    ⟨"uR", "dI", [("utc", 'u'), ("universal", 'u'), ("rfc-email", 'R'), ("date", 'd')], false⟩
  let arguments := arguments.map fun a => if a = "-I".toList then "-Idate".toList else a
  withOptions 1 o arguments fun flags others => do
    let given := (Flag.last? flags 'd').getD "now".toList
    let usual :=
      if Flag.given flags 'R' then "%a, %d %b %Y %H:%M:%S +0000"
      else
        match (Flag.last? flags 'I').map String.ofList with
        | some "date" => "%Y-%m-%d"
        | some "hours" => "%Y-%m-%dT%H+00:00"
        | some "minutes" => "%Y-%m-%dT%H:%M+00:00"
        | some _ => "%Y-%m-%dT%H:%M:%S+00:00"
        | none => "%a %b %e %H:%M:%S UTC %Y"
    let bad (text : Octets) : Work Unit :=
      complain ("invalid date ".toList ++ Octets.quoted text) 1
    match others, timeOf? given with
    | _ :: extra :: _, _ => misuse ("extra operand ".toList ++ Octets.quoted extra) 1
    | ['+' :: format], some seconds => putLine (timeIn seconds (format.length + 40) format)
    | [text], some _ => bad text
    | _, none => bad given
    | [], some seconds => putLine (timeIn seconds 100 usual.toList)

end LessonAudit.Program.Tool
