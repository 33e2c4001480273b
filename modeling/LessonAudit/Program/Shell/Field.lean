import LessonAudit.Program.Shell.State
import LessonAudit.Program.Wildcard
set_option autoImplicit false

namespace LessonAudit.Program.Shell

open Wildcard (Letter)

inductive Bit where
  | letter (l : Letter)
  | mark

inductive Cut where
  | whole
  | words
  | edges
deriving DecidableEq, Repr

structure Run where
  bits : List Bit
  cut : Cut

def Bit.letter? : Bit → Option Letter
  | letter l => some l
  | mark => none

def Run.ofOctets (octets : Octets) (quoted : Bool) (cut : Cut) : Run :=
  ⟨octets.map fun c => .letter ⟨c, quoted⟩, cut⟩

def lettersOf (runs : List Run) : List Letter :=
  runs.flatMap fun run => run.bits.filterMap Bit.letter?

def octetsOf (letters : List Letter) : Octets :=
  letters.map fun l => l.char

structure Fields where
  done : List (List Bit)
  field : List Bit
  space : Bool
  edges : Bool
  left : Option Nat
  spare : Option (List Bit)

namespace Fields

def add (f : Fields) (bits : List Bit) : Fields :=
  match f.spare with
  | some spare => { f with spare := some (bits ++ spare) }
  | none => { f with field := bits ++ f.field }

def stepLast (cuts blank : Bool) (f : Fields) (bit : Bit) : Fields :=
  if blank then { f with spare := some (bit :: f.spare.getD []) }
  else if cuts && f.space && f.spare.isSome then { f.add [bit] with space := false }
  else
    { f with field := bit :: (f.spare.getD [] ++ f.field), spare := none, space := false }

def step (cutters : Octets) (cut : Cut) (fromEdges : Bool) (f : Fields) (bit : Bit) : Fields :=
  let (cuts, blank) :=
    match bit with
    | .mark => (false, false)
    | .letter l =>
        let cuts := l.char == '\x00' || (cut == Cut.words && cutters.contains l.char)
        (cuts, cuts && " \t\n\x00".toList.contains l.char)
  if f.left = some 0 then stepLast cuts blank f bit
  else if f.space then
    if blank then { f with field := [] }
    else if cuts then { f with field := [], space := false }
    else { f with field := [bit], space := false }
  else if cuts then
    let space := blank && !(fromEdges || cut == Cut.edges)
    let left := f.left.map fun n => n - 1
    if space && f.field.isEmpty then f
    else if left = some 0 then { f with spare := some [bit], space := space, left := left }
    else { f with done := f.field.reverse :: f.done, field := [], space := space, left := left }
  else { f with field := bit :: f.field }

def addRun (cutters : Octets) (f : Fields) (run : Run) : Fields :=
  match run.cut with
  | .whole => f.add run.bits.reverse
  | cut =>
      run.bits.foldl (step cutters cut f.edges)
        { f with space := false, edges := cut == Cut.edges }

def ofRuns (cutters : Octets) (most : Option Nat) (runs : List Run) : List (List Bit) :=
  let f := runs.foldl (addRun cutters) ⟨[], [], false, false, most, none⟩
  if f.edges || !f.field.isEmpty then (f.field.reverse :: f.done).reverse else f.done.reverse

end Fields

def segments (letters : List Letter) : List (List Letter) :=
  let (done, current) := letters.foldl
    (fun (done, current) l =>
      if l.char = '/' then (current.reverse :: done, []) else (done, l :: current))
    (([], []) : List (List Letter) × List Letter)
  (current.reverse :: done).reverse

def sortOctets (found : List Octets) : List Octets :=
  found.mergeSort fun a b => !Octets.before b a

def exists? (tree : FileTree) (text : Octets) : Bool :=
  match tree.findOwn (pathOf text) with
  | .ok _ => true
  | .error _ => false

def namesLike (tree : FileTree) (folder : Octets) (pattern : List Letter) : List Octets :=
  let folder := if folder.isEmpty then ['.'] else folder
  match tree.find (pathOf folder) with
  | .ok (place, .folder) =>
      let items := Wildcard.read pattern
      let hidden := pattern.head?.any fun l => l.char == '.'
      let all := [['.'], ['.', '.']] ++ (tree.names place).map Octets.ofBytes
      all.filter fun name => (hidden || name.head? != some '.') && Wildcard.fits items name
  | _ => []

def pathsFrom (tree : FileTree) : List Octets → List (List Letter) → List Octets
  | found, [] => found
  | found, segment :: more =>
      let next := found.flatMap fun start =>
        if Wildcard.isPattern segment then
          (namesLike tree start segment).map fun name => start ++ name
        else
          let text := start ++ octetsOf segment
          if more.isEmpty && !exists? tree text then [] else [text]
      match more with
      | [] => next
      | _ => pathsFrom tree (next.map fun text => text ++ ['/']) more

def matching (tree : FileTree) (letters : List Letter) : List Octets :=
  if Wildcard.isPattern letters then
    match sortOctets (pathsFrom tree [[]] (segments letters)) with
    | [] => [octetsOf letters]
    | found => found
  else [octetsOf letters]

end LessonAudit.Program.Shell
