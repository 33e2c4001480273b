import LessonAudit.Program.Octets
set_option autoImplicit false

namespace LessonAudit.Program.Difference

structure Change where
  start : Nat
  stop : Nat
  otherStart : Nat
  otherStop : Nat
deriving DecidableEq, Repr

def keptRow (line : Octets) (others : List Octets) (below : List Nat) : List Nat :=
  (others.zip (below.zip (below.drop 1))).foldr
    (fun (other, here, next) row =>
      (if line == other then next + 1 else max here (row.headD 0)) :: row)
    [0]

def keptRows (others : List Octets) : List Octets → List (List Nat)
  | [] => [List.replicate (others.length + 1) 0]
  | line :: more =>
      let rows := keptRows others more
      keptRow line others (rows.headD []) :: rows

inductive Step where
  | keep
  | drop
  | add
deriving DecidableEq, Repr

def steps : List Octets → List Octets → List (List Nat) → List Step
  | [], others, _ => others.map fun _ => .add
  | lines, [], _ => lines.map fun _ => .drop
  | line :: more, other :: others, rows =>
      if line == other then .keep :: steps more others ((rows.drop 1).map (List.drop 1))
      else
        let here := rows.headD []
        let below := (rows.drop 1).headD []
        if here.getD 1 0 ≤ below.headD 0 then .drop :: steps more (other :: others) (rows.drop 1)
        else .add :: steps (line :: more) others (rows.map (List.drop 1))
  termination_by lines others => lines.length + others.length

def changesFrom (current : Option Change) (place other : Nat) : List Step → List Change
  | [] => current.toList
  | .keep :: more => current.toList ++ changesFrom none (place + 1) (other + 1) more
  | .drop :: more =>
      let c := current.getD ⟨place, place, other, other⟩
      changesFrom (some { c with stop := c.stop + 1 }) (place + 1) other more
  | .add :: more =>
      let c := current.getD ⟨place, place, other, other⟩
      changesFrom (some { c with otherStop := c.otherStop + 1 }) place (other + 1) more

def commonStart : List Octets → List Octets → Nat
  | a :: as, b :: bs => if a == b then commonStart as bs + 1 else 0
  | _, _ => 0

def moved (lines others : Array Octets) : Nat → Change → Change
  | 0, c => c
  | room + 1, c =>
      let next : Change := ⟨c.start + 1, c.stop + 1, c.otherStart + 1, c.otherStop + 1⟩
      if c.start < c.stop && c.otherStart < c.otherStop then c
      else if c.start < c.stop then
        if lines[c.stop]? == lines[c.start]? then moved lines others room next else c
      else if others[c.otherStop]? == others[c.otherStart]? then moved lines others room next
      else c

def settled (lines others : Array Octets) : List Change → List Change
  | [] => []
  | c :: more =>
      let behind := settled lines others more
      match behind with
      | [] => [moved lines others (lines.size - c.stop) c]
      | next :: rest =>
          let c := moved lines others (next.start - c.stop) c
          if c.stop = next.start then ⟨c.start, next.stop, c.otherStart, next.otherStop⟩ :: rest
          else c :: behind

def changes (lines others : List Octets) : List Change :=
  let before := commonStart lines others
  let a := lines.drop before
  let b := others.drop before
  let behind := commonStart a.reverse b.reverse
  let a := a.take (a.length - behind)
  let b := b.take (b.length - behind)
  let found := changesFrom none before before (steps a b (keptRows b a))
  settled lines.toArray others.toArray found

end LessonAudit.Program.Difference
