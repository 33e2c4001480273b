import LessonAudit.Text.Utf8
set_option autoImplicit false

namespace LessonAudit.Program

abbrev Octets := List Char

namespace Octets

def ofBytes (bytes : List UInt8) : Octets :=
  bytes.map fun b => Char.ofNat b.toNat

def toBytes (octets : Octets) : List UInt8 :=
  octets.map fun c => UInt8.ofNat c.toNat

def ofString (s : String) : Octets :=
  ofBytes (Text.Utf8.encode s)

def toString (octets : Octets) : String :=
  Text.Utf8.decodeLossy (toBytes octets)

def ofNat (n : Nat) : Octets :=
  Nat.toDigits 10 n

def ofInt (n : Int) : Octets :=
  if n < 0 then '-' :: ofNat n.natAbs else ofNat n.natAbs

def byte (n : Nat) : Char :=
  Char.ofNat (n % 256)

def isSpace (c : Char) : Bool :=
  c == ' ' || (decide ('\t' ≤ c) && decide (c ≤ '\r'))

def isBlank (c : Char) : Bool :=
  c == ' ' || c == '\t'

def cut (mark : Char) (octets : Octets) : List Octets × Octets :=
  let (done, current) := octets.foldl
    (fun (done, current) c =>
      if c = mark then (current.reverse :: done, []) else (done, c :: current))
    (([], []) : List Octets × Octets)
  (done.reverse, current.reverse)

def linesBy (mark : Char) (octets : Octets) : List Octets :=
  match cut mark octets with
  | (done, []) => done
  | (done, last) => done ++ [last]

def lines (octets : Octets) : List Octets :=
  linesBy '\n' octets

def pieces (mark : Char) (octets : Octets) : List Octets :=
  let (done, last) := cut mark octets
  done ++ [last]

def fullLines (mark : Char) (octets : Octets) : List Octets :=
  let (done, last) := cut mark octets
  (done.map fun line => line ++ [mark]) ++ (if last.isEmpty then [] else [last])

def joined (mark : Octets) : List Octets → Octets
  | [] => []
  | first :: more => first ++ more.flatMap fun piece => mark ++ piece

def total (texts : List Octets) : Nat :=
  texts.foldl (fun n text => n + text.length) 0

def withoutBreaks (octets : Octets) : Octets :=
  (octets.reverse.dropWhile (· == '\n')).reverse

def before : Octets → Octets → Bool
  | _, [] => false
  | [], _ :: _ => true
  | a :: as, b :: bs => decide (a < b) || (a == b && before as bs)

def padLeft (mark : Char) (width : Nat) (octets : Octets) : Octets :=
  List.replicate (width - octets.length) mark ++ octets

def padRight (width : Nat) (octets : Octets) : Octets :=
  octets ++ List.replicate (width - octets.length) ' '

def isDecimal (octets : Octets) : Bool :=
  !octets.isEmpty && octets.all Char.isDigit

def value (digits : Octets) : Nat :=
  digits.foldl (fun n c => 10 * n + (c.toNat - 48)) 0

def hexDigit? (c : Char) : Option Nat :=
  if '0' ≤ c ∧ c ≤ '9' then some (c.toNat - 48)
  else if 'a' ≤ c ∧ c ≤ 'f' then some (c.toNat - 87)
  else if 'A' ≤ c ∧ c ≤ 'F' then some (c.toNat - 55)
  else none

def isOctal (c : Char) : Bool :=
  decide ('0' ≤ c) && decide (c ≤ '7')

def valueIn (base : Nat) (digits : Octets) : Nat :=
  digits.foldl (fun n c => base * n + (hexDigit? c).getD 0) 0

def int? (octets : Octets) : Option Int :=
  match octets with
  | '-' :: digits => if isDecimal digits then some (-(value digits : Int)) else none
  | '+' :: digits => if isDecimal digits then some (value digits : Int) else none
  | digits => if isDecimal digits then some (value digits : Int) else none

def isSpecial (first : Bool) (c : Char) : Bool :=
  " !\"$&()*;<=>[^\x60|?\\:\x27".toList.contains c || (first && (c == '#' || c == '~'))

def isVisible (c : Char) : Bool :=
  decide (' ' ≤ c) && decide (c ≤ '~')

def shownEscape (c : Char) : Octets :=
  match c with
  | '\n' => ['\\', 'n']
  | '\t' => ['\\', 't']
  | '\r' => ['\\', 'r']
  | '\x07' => ['\\', 'a']
  | '\x08' => ['\\', 'b']
  | '\x0b' => ['\\', 'v']
  | '\x0c' => ['\\', 'f']
  | _ => '\\' :: padLeft '0' 3 (Nat.toDigits 8 c.toNat)

def quotedFrom (hidden : Bool) : Octets → Octets
  | [] => if hidden then [] else ['\x27']
  | c :: rest =>
      if isVisible c then
        let start := if hidden then ['\x27'] else []
        start ++ (if c = '\x27' then "\x27\\\x27\x27".toList else [c]) ++ quotedFrom false rest
      else
        let start := if hidden then [] else "\x27$\x27".toList
        let next := if rest.head?.all isVisible then ['\x27'] else []
        start ++ shownEscape c ++ next ++ quotedFrom true rest

def quoted (name : Octets) : Octets :=
  let others := name.filter fun c => c != '\x27'
  if name.contains '\x27' && others.all fun c => isVisible c && !"\"$\x60\\!".toList.contains c then
    '"' :: name ++ ['"']
  else '\x27' :: quotedFrom false name

def named (name : Octets) : Octets :=
  let plain := name.all fun c => isVisible c && !isSpecial false c
  let single := name == ['\x7b'] || name == ['\x7d']
  if plain && !name.isEmpty && !single && !name.head?.any (isSpecial true) then name
  else quoted name

end Octets
end LessonAudit.Program
