import LessonAudit.Text.Pieces
import LessonAudit.Text.Utf8
set_option autoImplicit false

namespace LessonAudit

-- File names are bytes; where a text stands for one, it is written in UTF-8.
instance textBytes : Coe String (List UInt8) := ⟨Text.Utf8.encode⟩

instance textsBytes : Coe (List String) (List (List UInt8)) := ⟨List.map Text.Utf8.encode⟩

structure Path where
  bytes : List UInt8
deriving DecidableEq, Repr, Inhabited

inductive Part where
  | root
  | here
  | up
  | name (bytes : List UInt8)
deriving DecidableEq, Repr

namespace Part

def rank : Part → Nat
  | root => 0
  | here => 1
  | up => 2
  | name _ => 3

def label : Part → List UInt8
  | name bytes => bytes
  | _ => []

def before (a b : Part) : Bool :=
  decide (a.rank < b.rank) || (a.rank == b.rank && decide (a.label < b.label))

end Part

namespace Path

def slash : UInt8 := 0x2F

def dot : UInt8 := 0x2E

def text (p : Path) : String :=
  Text.Utf8.decodeLossy p.bytes

def isText (p : Path) : Bool :=
  (Text.Utf8.decode? p.bytes).isSome

def isIdle (piece : List UInt8) : Bool :=
  piece == [] || piece == [dot]

def partOf (piece : List UInt8) : Part :=
  if piece = [dot, dot] then .up else .name piece

/-- A path taken apart: the first part, if it is the root or `.`, and the pieces after it. -/
structure Cut where
  head : Option Part
  body : List (List UInt8)

def cut (p : Path) : Cut :=
  match Text.pieces slash p.bytes with
  | [] => ⟨none, []⟩
  | [[]] => ⟨none, []⟩
  | [] :: more => ⟨some .root, more⟩
  | first :: more => if first = [dot] then ⟨some .here, more⟩ else ⟨none, first :: more⟩

def Cut.parts (c : Cut) : List Part :=
  c.head.toList ++ (c.body.filter fun piece => !isIdle piece).map partOf

def parts (p : Path) : List Part :=
  p.cut.parts

def same (p q : Path) : Bool :=
  p.parts == q.parts

def partsBefore : List Part → List Part → Bool
  | _, [] => false
  | [], _ :: _ => true
  | a :: as, b :: bs => if a = b then partsBefore as bs else a.before b

def before (p q : Path) : Bool :=
  partsBefore p.parts q.parts

def startsWith (p base : Path) : Bool :=
  base.parts.isPrefixOf p.parts

def isAbsolute (p : Path) : Bool :=
  p.bytes.head? == some slash

def join (base : Path) (name : List UInt8) : Path :=
  if (Path.mk name).isAbsolute then ⟨name⟩
  else if base.bytes = [] ∨ base.bytes.getLast? = some slash then ⟨base.bytes ++ name⟩
  else ⟨base.bytes ++ slash :: name⟩

def trimEnd (body : List (List UInt8)) : List (List UInt8) :=
  (body.reverse.dropWhile isIdle).reverse

def dropParts : Nat → List (List UInt8) → List (List UInt8)
  | _, [] => []
  | n, piece :: more =>
      if isIdle piece then dropParts n more
      else
        match n with
        | 0 => piece :: more
        | n + 1 => dropParts n more

def Cut.trimmed (c : Cut) : List UInt8 :=
  let body := trimEnd c.body
  match c.head, body with
  | some .root, _ => slash :: Text.joined slash body
  | some _, [] => [dot]
  | some _, _ :: _ => dot :: slash :: Text.joined slash body
  | none, _ => Text.joined slash body

/-- The part of a path below `base`, whose parts have to come first in it. -/
def below? (p base : Path) : Option Path :=
  if p.startsWith base then
    match base.parts.length with
    | 0 => some ⟨p.cut.trimmed⟩
    | n + 1 =>
        let n := if p.cut.head.isSome then n else n + 1
        some ⟨Text.joined slash (dropParts n (trimEnd p.cut.body))⟩
  else none

def insert (p : Path) : List Path → List Path
  | [] => [p]
  | q :: more =>
      if p.before q then p :: q :: more
      else if p.same q then q :: more
      else q :: insert p more

def ordered (paths : List Path) : List Path :=
  paths.foldl (fun found p => insert p found) []

end Path
end LessonAudit
