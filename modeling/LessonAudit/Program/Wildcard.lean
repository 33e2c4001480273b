import LessonAudit.Program.Octets
set_option autoImplicit false

namespace LessonAudit.Program

inductive CharSet where
  | single (c : Char)
  | range (first last : Char)
  | named (name : String)
deriving DecidableEq, Repr

namespace CharSet

def isOf (name : String) (c : Char) : Bool :=
  match name with
  | "alpha" => c.isAlpha
  | "digit" => c.isDigit
  | "alnum" => c.isAlphanum
  | "upper" => c.isUpper
  | "lower" => c.isLower
  | "space" => Octets.isSpace c
  | "blank" => Octets.isBlank c
  | "punct" => decide ('!' ≤ c) && decide (c ≤ '~') && !c.isAlphanum
  | "print" => decide (' ' ≤ c) && decide (c ≤ '~')
  | "graph" => decide ('!' ≤ c) && decide (c ≤ '~')
  | "cntrl" => decide (c < ' ') || c == '\x7f'
  | "xdigit" => (Octets.hexDigit? c).isSome
  | _ => false

def has (c : Char) : CharSet → Bool
  | single d => c == d
  | range first last => decide (first ≤ c) && decide (c ≤ last)
  | named name => isOf name c

def className? (cs : List Char) : Option (String × List Char) :=
  let name := cs.takeWhile Char.isAlpha
  match cs.drop name.length with
  | ':' :: ']' :: rest => some (String.ofList name, rest)
  | _ => none

end CharSet

namespace Wildcard

inductive Item where
  | any
  | one
  | exact (c : Char)
  | set (negated : Bool) (members : List CharSet)
deriving DecidableEq, Repr

structure Letter where
  char : Char
  quoted : Bool
deriving DecidableEq, Repr

def members : Nat → Bool → List CharSet → List Letter → Option (List CharSet × List Letter)
  | 0, _, _, _ => none
  | _ + 1, _, _, [] => none
  | fuel + 1, first, done, l :: rest =>
      if l.char = ']' && !l.quoted && !first then some (done.reverse, rest)
      else if l.char = '/' then none
      else
        let inner := rest.map fun x => x.char
        match l.char == '[' && !l.quoted, inner with
        | true, ':' :: _ =>
            match CharSet.className? inner.tail with
            | some (name, after) =>
                members fuel false (.named name :: done) (rest.drop (rest.length - after.length))
            | none => members fuel false (.single l.char :: done) rest
        | _, _ =>
            match rest with
            | dash :: last :: after =>
                if dash.char = '-' && !dash.quoted && (last.char ≠ ']' || last.quoted) then
                  members fuel false (.range l.char last.char :: done) after
                else members fuel false (.single l.char :: done) rest
            | _ => members fuel false (.single l.char :: done) rest

def readSet (cs : List Letter) : Option (Item × List Letter) :=
  match cs with
  | l :: rest =>
      let negated := (l.char == '!' || l.char == '^') && !l.quoted
      (members (cs.length + 1) true [] (if negated then rest else cs)).map
        fun (found, rest) => (.set negated found, rest)
  | [] => none

def readFrom : Nat → List Letter → List Item
  | 0, _ => []
  | _ + 1, [] => []
  | fuel + 1, l :: rest =>
      if l.quoted then .exact l.char :: readFrom fuel rest
      else
        match l.char with
        | '*' => .any :: readFrom fuel rest
        | '?' => .one :: readFrom fuel rest
        | '[' =>
            match readSet rest with
            | some (item, rest) => item :: readFrom fuel rest
            | none => .exact '[' :: readFrom fuel rest
        | '\\' =>
            match rest with
            | next :: rest => .exact next.char :: readFrom fuel rest
            | [] => [.exact '\\']
        | c => .exact c :: readFrom fuel rest

def read (cs : List Letter) : List Item :=
  readFrom (cs.length + 1) cs

def isPattern (cs : List Letter) : Bool :=
  cs.any fun l => !l.quoted && (l.char == '*' || l.char == '?' || l.char == '[')

def Item.fits (item : Item) (c : Char) : Bool :=
  match item with
  | .any => true
  | .one => true
  | .exact d => c == d
  | .set negated found => found.any (CharSet.has c) != negated

def suffixes : Octets → List Octets
  | [] => [[]]
  | c :: cs => (c :: cs) :: suffixes cs

def fits : List Item → Octets → Bool
  | [], cs => cs.isEmpty
  | .any :: more, cs => (suffixes cs).any (fits more)
  | _ :: _, [] => false
  | item :: more, c :: cs => item.fits c && fits more cs

def startLength? (items : List Item) (longest : Bool) (cs : Octets) : Option Nat :=
  let lengths := List.range (cs.length + 1)
  (if longest then lengths.reverse else lengths).find? fun n => fits items (cs.take n)

def endStart? (items : List Item) (longest : Bool) (cs : Octets) : Option Nat :=
  let starts := List.range (cs.length + 1)
  (if longest then starts else starts.reverse).find? fun n => fits items (cs.drop n)

end Wildcard
end LessonAudit.Program
