import Std.Data.HashSet
import LessonAudit.Program.Wildcard
set_option autoImplicit false

namespace LessonAudit.Program

inductive Regex where
  | empty
  | single (negated : Bool) (members : List CharSet)
  | lineStart
  | lineEnd
  | textStart
  | textEnd
  | wordEdge (start stop inside : Bool)
  | group (number : Nat) (body : Regex)
  | again (number : Nat)
  | sequence (first second : Regex)
  | either (first second : Regex)
  | repeated (least : Nat) (most : Option Nat) (body : Regex)
deriving Repr

namespace Regex

def any : Regex := .single true []

def exactly (c : Char) : Regex := .single false [.single c]

structure Dialect where
  extended : Bool
  foldCase : Bool
  lenient : Bool
  lines : Bool
deriving DecidableEq, Repr

inductive Fault where
  | bracket
  | group
  | closing
  | interval
  | intervalText
  | reference
  | preceding
  | backslash
  | range
  | className
  | classPlace
  | pattern
  | size
deriving DecidableEq, Repr

def Fault.message : Fault → String
  | bracket => "Unmatched [, [^, [:, [., or [="
  | group => "Unmatched ( or \\("
  | closing => "Unmatched ) or \\)"
  | interval => "Unmatched \\\x7b"
  | intervalText => "Invalid content of \\\x7b\\\x7d"
  | reference => "Invalid back reference"
  | preceding => "Invalid preceding regular expression"
  | backslash => "Trailing backslash"
  | range => "Invalid range end"
  | className => "Invalid character class name"
  | classPlace => "character class syntax is [[:space:]], not [:space:]"
  | pattern => "Invalid regular expression"
  | size => "Regular expression too big"

def isWord (c : Char) : Bool :=
  c.isAlphanum || c == '_'

def wordSet : List CharSet := [.named "alnum", .single '_']

def member (c : Char) (rest : List Char) : Char × List Char :=
  match c, rest with
  | '[', '.' :: inner :: '.' :: ']' :: more => (inner, more)
  | '[', '=' :: inner :: '=' :: ']' :: more => (inner, more)
  | _, _ => (c, rest)

def readMembers : Nat → Bool → List CharSet → List Char → Except Fault (List CharSet × List Char)
  | 0, _, _, _ => .error .bracket
  | _ + 1, _, _, [] => .error .bracket
  | fuel + 1, first, done, c :: rest =>
      if c = ']' && !first then .ok (done, rest)
      else if c = '[' && rest.head? = some ':' then
        match CharSet.className? rest.tail with
        | some (name, rest) =>
            if ["alpha", "digit", "alnum", "upper", "lower", "space", "blank", "punct", "print",
                "graph", "cntrl", "xdigit"].contains name then
              readMembers fuel false (.named name :: done) rest
            else .error .className
        | none => readMembers fuel false (.single c :: done) rest
      else
        let (c, rest) := member c rest
        match rest with
        | '-' :: last :: after =>
            if last = ']' then readMembers fuel false (.single c :: done) rest
            else
              let (last, after) := member last after
              if last < c then .error .range
              else readMembers fuel false (.range c last :: done) after
        | _ => readMembers fuel false (.single c :: done) rest

def readSet (cs : List Char) : Except Fault (Regex × List Char) := do
  let (negated, inner) :=
    match cs with
    | '^' :: rest => (true, rest)
    | _ => (false, cs)
  if inner.isEmpty then throw .pattern
  let (found, rest) ← readMembers (inner.length + 1) true [] inner
  let text := cs.take (cs.length - rest.length - 1)
  if 2 < text.length && text.head? = some ':' && text.getLast? = some ':' then throw .classPlace
  return (.single negated found, rest)

def classEscape? (c : Char) : Option Regex :=
  match c with
  | 'w' => some (.single false wordSet)
  | 'W' => some (.single true wordSet)
  | 's' => some (.single false [.named "space"])
  | 'S' => some (.single true [.named "space"])
  | '<' => some (.wordEdge true false false)
  | '>' => some (.wordEdge false true false)
  | 'b' => some (.wordEdge true true false)
  | 'B' => some (.wordEdge false false true)
  | '\x60' => some .textStart
  | '\x27' => some .textEnd
  | 'n' => some (exactly '\n')
  | 't' => some (exactly '\t')
  | _ => none

def countLimit : Nat := 32767

def readCounts (cs : List Char) : Except Fault ((Nat × Option Nat) × List Char) :=
  let least := cs.takeWhile Char.isDigit
  match cs.drop least.length with
  | ',' :: rest =>
      let most := rest.takeWhile Char.isDigit
      .ok ((Octets.value least, if most.isEmpty then none else some (Octets.value most)),
        rest.drop most.length)
  | [] => .error .interval
  | rest =>
      if least.isEmpty then .error .intervalText
      else .ok ((Octets.value least, some (Octets.value least)), rest)

def readInterval (d : Dialect) (cs : List Char) :
    Except Fault ((Nat × Option Nat) × List Char) := do
  let ((least, most), rest) ← readCounts cs
  let behind ←
    match d.extended, rest with
    | true, '\x7d' :: behind | false, '\\' :: '\x7d' :: behind => pure behind
    | _, [] => throw .interval
    | false, '\\' :: _ => throw .interval
    | _, _ => throw .intervalText
  if most.any fun most => decide (most < least) then throw .intervalText
  if countLimit < max least (most.getD 0) then throw .size
  return ((least, most), behind)

def repetition? (d : Dialect) (cs : List Char) :
    Except Fault (Option ((Nat × Option Nat) × List Char)) :=
  match d.extended, cs with
  | _, '*' :: rest => .ok (some ((0, none), rest))
  | true, '+' :: rest => .ok (some ((1, none), rest))
  | true, '?' :: rest => .ok (some ((0, some 1), rest))
  | false, '\\' :: '+' :: rest => .ok (some ((1, none), rest))
  | false, '\\' :: '?' :: rest => .ok (some ((0, some 1), rest))
  | true, '\x7b' :: rest =>
      match readInterval d rest with
      | .ok found => .ok (some found)
      | .error fault =>
          let unclosed := fault = .interval || !rest.head?.any fun c => c.isDigit || c == ','
          if d.lenient && unclosed then .ok none
          else if rest.head?.any fun c => c.isDigit || c == ',' then .error fault
          else .error .interval
  | false, '\\' :: '\x7b' :: rest => (readInterval d rest).map some
  | _, _ => .ok none

def repeatFrom (d : Dialect) (again : Bool) : Nat → Regex → List Char →
    Except Fault (Regex × List Char)
  | 0, r, cs => .ok (r, cs)
  | fuel + 1, r, cs =>
      let twice :=
        match cs with
        | '*' :: _ | '\\' :: '\x7b' :: _ => again && !d.extended && !d.lenient
        | _ => false
      match repetition? d cs with
      | .error fault => .error fault
      | .ok none => .ok (r, cs)
      | .ok (some ((least, most), rest)) =>
          if twice then .error .preceding
          else repeatFrom d true fuel (.repeated least most r) rest

def isAnchor : Regex → Bool
  | .lineStart | .lineEnd | .textStart | .textEnd | .wordEdge .. => true
  | _ => false

def atBranchEnd (d : Dialect) (depth : Nat) (cs : List Char) : Bool :=
  match d.extended, cs with
  | _, [] => true
  | true, '|' :: _ => true
  | true, ')' :: _ => depth != 0
  | false, '\\' :: '|' :: _ => true
  | false, '\\' :: ')' :: _ => true
  | _, _ => false

mutual

def readEither (d : Dialect) (fuel depth number : Nat) (cs : List Char) :
    Except Fault (Regex × Nat × List Char) :=
  match fuel with
  | 0 => .error .group
  | fuel + 1 => do
      let (first, number, rest) ← readSequence d fuel depth number true .empty cs
      match d.extended, rest with
      | true, '|' :: rest | false, '\\' :: '|' :: rest =>
          let (second, number, rest) ← readEither d fuel depth number rest
          .ok (.either first second, number, rest)
      | _, _ => .ok (first, number, rest)

def readSequence (d : Dialect) (fuel depth number : Nat) (first : Bool) (done : Regex)
    (cs : List Char) : Except Fault (Regex × Nat × List Char) :=
  match fuel with
  | 0 => .error .group
  | fuel + 1 =>
      if atBranchEnd d depth cs then .ok (done, number, cs)
      else do
        let (r, number, rest) ← readSingle d fuel depth number first cs
        let isAnchor := r.isAnchor
        let (r, rest) ←
          if isAnchor then .ok (r, rest) else repeatFrom d false (rest.length + 1) r rest
        readSequence d fuel depth number (isAnchor && d.extended) (.sequence done r) rest

def readSingle (d : Dialect) (fuel depth number : Nat) (first : Bool) (cs : List Char) :
    Except Fault (Regex × Nat × List Char) :=
  match fuel with
  | 0 => .error .group
  | fuel + 1 =>
      let group (rest : List Char) : Except Fault (Regex × Nat × List Char) := do
        let (body, next, rest) ← readEither d fuel (depth + 1) (number + 1) rest
        match d.extended, rest with
        | true, ')' :: rest | false, '\\' :: ')' :: rest => .ok (.group number body, next, rest)
        | _, _ => .error .group
      let plain (c : Char) (rest : List Char) : Except Fault (Regex × Nat × List Char) :=
        .ok (exactly c, number, rest)
      match cs with
      | [] => .ok (.empty, number, [])
      | '.' :: rest => .ok (any, number, rest)
      | '[' :: rest => (readSet rest).map fun (r, rest) => (r, number, rest)
      | '^' :: rest =>
          if d.extended || first then .ok (.lineStart, number, rest) else plain '^' rest
      | '$' :: rest =>
          if d.extended || atBranchEnd d depth rest then .ok (.lineEnd, number, rest)
          else plain '$' rest
      | '\\' :: [] => .error .backslash
      | '\\' :: c :: rest =>
          if !d.extended && c == '(' then group rest
          else if c.isDigit && c != '0' then
            let n := c.toNat - 48
            if n < number then .ok (.again n, number, rest) else .error .reference
          else if !d.extended && c == '\x7b' then .error .preceding
          else
            match classEscape? c with
            | some r => .ok (r, number, rest)
            | none => plain c rest
      | '(' :: rest => if d.extended then group rest else plain '(' rest
      | ')' :: rest => if d.extended && !d.lenient then .error .closing else plain ')' rest
      | c :: rest =>
          if d.extended && first && "*+?\x7b".toList.contains c then
            if !d.lenient then .error .preceding
            else if c = '\x7b' then plain c rest
            else .ok (.empty, number, rest)
          else plain c rest

end

def read (d : Dialect) (text : Octets) : Except Fault Regex := do
  let (r, _, rest) ← readEither d (6 * text.length + 6) 0 1 text
  match rest with
  | [] => .ok r
  | _ => .error .closing

structure Spot where
  before : Option Char
  rest : Octets
  index : Nat
  groups : List (Nat × Nat × Octets)

def Spot.skip (s : Spot) (count : Nat) : Spot :=
  if count = 0 then s
  else
    { s with
      before := (s.rest.drop (count - 1)).head?, rest := s.rest.drop count,
      index := s.index + count }

def Spot.group? (s : Spot) (number : Nat) : Option Octets :=
  (s.groups.lookup number).map fun (_, octets) => octets

def distinct (spots : List Spot) : List Spot :=
  match spots with
  | [] | [_] => spots
  | _ =>
      (spots.foldl
        (fun (seen, done) s =>
          if seen.contains s.index then (seen, done) else (seen.insert s.index, s :: done))
        ((∅, []) : Std.HashSet Nat × List Spot)).2.reverse

def fitsSet (d : Dialect) (negated : Bool) (found : List CharSet) (c : Char) : Bool :=
  let hit :=
    if d.foldCase then
      found.any (CharSet.has c.toLower) || found.any (CharSet.has c.toUpper)
    else found.any (CharSet.has c)
  hit != negated

def atEdge (start stop inside : Bool) (s : Spot) : Bool :=
  let left := s.before.any isWord
  let right := s.rest.head?.any isWord
  (start && !left && right) || (stop && left && !right) || (inside && left == right)

def countdown (s : Spot) (least most : Nat) : List Spot :=
  let spots := (List.range (most + 1 - least)).map fun n => s.skip (least + n)
  spots.reverse

mutual

def spots (d : Dialect) (fuel : Nat) (r : Regex) (s : Spot) : List Spot :=
  match fuel with
  | 0 => []
  | fuel + 1 =>
      match r with
      | .empty => [s]
      | .single negated found =>
          match s.rest with
          | c :: _ => if fitsSet d negated found c then [s.skip 1] else []
          | [] => []
      | .lineStart => if s.index = 0 || (d.lines && s.before = some '\n') then [s] else []
      | .lineEnd => if s.rest.isEmpty || (d.lines && s.rest.head? = some '\n') then [s] else []
      | .textStart => if s.index = 0 then [s] else []
      | .textEnd => if s.rest.isEmpty then [s] else []
      | .wordEdge start stop inside => if atEdge start stop inside s then [s] else []
      | .group number body =>
          (spots d fuel body s).map fun e =>
            let octets := s.rest.take (e.index - s.index)
            { e with groups := (number, s.index, octets) :: e.groups }
      | .again number =>
          match s.group? number with
          | some octets =>
              let next := s.rest.take octets.length
              let same :=
                if d.foldCase then next.map Char.toLower == octets.map Char.toLower
                else next == octets
              if same then [s.skip octets.length] else []
          | none => []
      | .sequence first second => distinct ((spots d fuel first s).flatMap (spots d fuel second))
      | .either first second => distinct (spots d fuel first s ++ spots d fuel second s)
      | .repeated least most (.single negated found) =>
          let limit := most.getD s.rest.length
          let run := ((s.rest.take limit).takeWhile (fitsSet d negated found)).length
          if run < least then [] else countdown s least run
      | .repeated least most body => distinct (repeatSpots d fuel least most body s)

def repeatSpots (d : Dialect) (fuel least : Nat) (most : Option Nat) (body : Regex) (s : Spot) :
    List Spot :=
  match fuel with
  | 0 => []
  | fuel + 1 =>
      let here := if least = 0 then [s] else []
      if most = some 0 then here
      else
        let next := (spots d fuel body s).filter fun e => least != 0 || e.index != s.index
        let further :=
          next.flatMap (repeatSpots d fuel (least - 1) (most.map fun n => n - 1) body)
        distinct further ++ here

end

def depth : Regex → Nat
  | .group _ body => body.depth + 1
  | .sequence first second => max first.depth second.depth + 1
  | .either first second => max first.depth second.depth + 1
  | .repeated least _ body => body.depth + least + 2
  | _ => 1

structure Match where
  start : Nat
  octets : Octets
  rest : Octets
  groups : List (Nat × Nat × Octets)

def Match.group (m : Match) (number : Nat) : Octets :=
  if number = 0 then m.octets else ((m.groups.lookup number).map fun g => g.2).getD []

def matchAt? (d : Dialect) (r : Regex) (s : Spot) : Option Match :=
  let found := spots d (r.depth + 2 * s.rest.length + 2) r s
  match found with
  | [] => none
  | first :: more =>
      let best := more.foldl (fun best e => if best.index < e.index then e else best) first
      some ⟨s.index, s.rest.take (best.index - s.index), best.rest, best.groups⟩

def findFrom? (d : Dialect) (r : Regex) : Nat → Spot → Option Match
  | 0, _ => none
  | fuel + 1, s =>
      match matchAt? d r s with
      | some m => some m
      | none => if s.rest.isEmpty then none else findFrom? d r fuel (s.skip 1)

def find? (d : Dialect) (r : Regex) (text : Octets) : Option Match :=
  findFrom? d r (text.length + 1) ⟨none, text, 0, []⟩

end Regex
end LessonAudit.Program
