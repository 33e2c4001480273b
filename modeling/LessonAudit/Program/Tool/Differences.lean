import LessonAudit.Program.Difference
import LessonAudit.Program.Tool.Files
set_option autoImplicit false

namespace LessonAudit.Program.Tool

open Work
open Difference (Change)

structure DifferenceView where
  around : Option Nat
  brief : Bool
  tellsSame : Bool
  foldCase : Bool
  noBlanks : Bool
  fewBlanks : Bool
  asText : Bool
  newFiles : Bool
  recursive : Bool
  labels : List Octets
  options : List Octets

namespace DifferenceView

def oneBlank : Octets → Octets
  | [] => []
  | c :: rest =>
      let more := oneBlank rest
      if !Octets.isSpace c then c :: more
      else if more.isEmpty || more.head? == some ' ' then more
      else ' ' :: more

def key (v : DifferenceView) (line : Octets) : Octets :=
  let line := if v.foldCase then line.map Char.toLower else line
  if v.noBlanks then line.filter fun c => !Octets.isSpace c
  else if v.fewBlanks then oneBlank line
  else line

end DifferenceView

def noLineEnd : Octets :=
  "\\ No newline at end of file\n".toList

def markedLines (mark : Octets) (lines : List Octets) : Octets :=
  lines.flatMap fun line =>
    if line.getLast? = some '\n' then mark ++ line else mark ++ line ++ '\n' :: noLineEnd

def linesBetween (lines : Array Octets) (start stop : Nat) : List Octets :=
  (lines.extract start stop).toList

def plainRange (start stop : Nat) : Octets :=
  if stop ≤ start + 1 then Octets.ofNat stop
  else Octets.ofNat (start + 1) ++ ',' :: Octets.ofNat stop

def plainChange (a b : Array Octets) (c : Change) : Octets :=
  let drops := decide (c.start < c.stop)
  let adds := decide (c.otherStart < c.otherStop)
  let letter := if drops && adds then 'c' else if drops then 'd' else 'a'
  plainRange c.start c.stop ++ letter :: plainRange c.otherStart c.otherStop ++ '\n' ::
    markedLines ['<', ' '] (linesBetween a c.start c.stop) ++
    (if drops && adds then "---\n".toList else []) ++
    markedLines ['>', ' '] (linesBetween b c.otherStart c.otherStop)

def gathered (around : Nat) : List Change → List (List Change)
  | [] => []
  | c :: more =>
      match gathered around more with
      | (next :: group) :: groups =>
          if next.start ≤ c.stop + 2 * around then (c :: next :: group) :: groups
          else [c] :: (next :: group) :: groups
      | groups => [c] :: groups

def unitedRange (start stop : Nat) : Octets :=
  if stop = start + 1 then Octets.ofNat stop
  else
    let first := if start = stop then start else start + 1
    Octets.ofNat first ++ ',' :: Octets.ofNat (stop - start)

def unitedGroup (around : Nat) (a b : Array Octets) (group : List Change) : Octets :=
  match group.head?, group.getLast? with
  | some first, some last =>
      let start := first.start - around
      let otherStart := first.otherStart - (first.start - start)
      let stop := min a.size (last.stop + around)
      let otherStop := min b.size (last.otherStop + (stop - last.stop))
      let (shown, place) := group.foldl
        (fun (shown, place) c =>
          (shown ++ markedLines [' '] (linesBetween a place c.start) ++
            markedLines ['-'] (linesBetween a c.start c.stop) ++
            markedLines ['+'] (linesBetween b c.otherStart c.otherStop), c.stop))
        (([], start) : Octets × Nat)
      "@@ -".toList ++ unitedRange start stop ++ " +".toList ++ unitedRange otherStart otherStop ++
        " @@\n".toList ++ shown ++ markedLines [' '] (linesBetween a place stop)
  | _, _ => []

def unitedName (mark : String) (label : Option Octets) (name : Octets) : Octets :=
  let time := "\t1970-01-01 00:00:00.000000000 +0000".toList
  mark.toList ++ ' ' :: label.getD (name ++ time) ++ ['\n']

def differ (first : Octets) (text : Octets) : Work Unit := do
  put (first ++ text)
  if (← get).status = 0 then setStatus 1

def compareContents (v : DifferenceView) (first : Octets) (name other : Octets)
    (octets others : Octets) : Work Unit := do
  let both (verb : String) : Octets := name ++ " and ".toList ++ other ++ verb.toList ++ ['\n']
  let same : Work Unit :=
    if v.tellsSame then put ("Files ".toList ++ both " are identical") else return ()
  if octets = others then same
  else
    let isBinary := !v.asText && (octets.contains '\x00' || others.contains '\x00')
    if isBinary && !v.brief then differ [] ("Binary files ".toList ++ both " differ")
    else
      let a := Octets.fullLines '\n' octets
      let b := Octets.fullLines '\n' others
      let found := Difference.changes (a.map v.key) (b.map v.key)
      if found.isEmpty then same
      else if v.brief then differ [] ("Files ".toList ++ both " differ")
      else
        let a := a.toArray
        let b := b.toArray
        match v.around with
        | none => differ first (found.flatMap (plainChange a b))
        | some around =>
            differ first (unitedName "---" v.labels[0]? name ++
              unitedName "+++" v.labels[1]? other ++
              (gathered around found).flatMap (unitedGroup around a b))

def differenceInput (v : DifferenceView) (name : Octets) : Work (Except String Octets) := do
  match ← read name with
  | .error reason =>
      return if v.newFiles && reason = "No such file or directory" then .ok [] else .error reason
  | found => return found

def compareFiles (v : DifferenceView) (first name other : Octets) : Work Unit := do
  let input ← if name = ['-'] && other = ['-'] then pure (.ok []) else differenceInput v name
  let otherInput ← if name = ['-'] && other = ['-'] then pure (.ok []) else differenceInput v other
  match input, otherInput with
  | .ok octets, .ok others => compareContents v first name other octets others
  | input, otherInput =>
      for (name, found) in [(name, input), (other, otherInput)] do
        match found with
        | .error reason => complain (Octets.named name ++ ": ".toList ++ reason.toList) 2
        | .ok _ => pure ()

def compareFolders (v : DifferenceView) : Nat → Octets → Octets → Work Unit
  | 0, _, _ => return ()
  | fuel + 1, folder, other => do
      let tree := (← get).tree
      let namesIn (folder : Octets) : List Octets :=
        match tree.find (pathOf folder) with
        | .ok (place, .folder) => (tree.names place).map Octets.ofBytes
        | _ => []
      let own := namesIn folder
      let others := namesIn other
      let all := (own ++ others.filter fun name => !own.contains name).mergeSort fun a b =>
        !Octets.before b a
      for name in all do
        let a := inside folder name
        let b := inside other name
        if !v.newFiles && !others.contains name then
          differ [] ("Only in ".toList ++ folder ++ ": ".toList ++ name ++ ['\n'])
        else if !v.newFiles && !own.contains name then
          differ [] ("Only in ".toList ++ other ++ ": ".toList ++ name ++ ['\n'])
        else
          let kind (path : Octets) (isFolder : Bool) : Octets :=
            path ++ (if isFolder then " is a directory" else " is a regular file").toList
          match isFolderAt tree a, isFolderAt tree b with
          | true, true =>
              if v.recursive then compareFolders v fuel a b
              else
                put ("Common subdirectories: ".toList ++ a ++ " and ".toList ++ b ++ ['\n'])
          | false, false =>
              let words := "diff".toList :: v.options ++ [a, b]
              compareFiles v (Octets.joined [' '] words ++ ['\n']) a b
          | first, second =>
              differ [] ("File ".toList ++ kind a first ++ " while file ".toList ++ kind b second ++
                ['\n'])

def differenceOptions : Options :=
  ⟨"uqsiwbBaNrcynedZ", "ULxC", [("unified", 'u'), ("brief", 'q'), ("report-identical-files", 's'),
    ("ignore-case", 'i'), ("ignore-all-space", 'w'), ("ignore-space-change", 'b'),
    ("ignore-blank-lines", 'B'), ("text", 'a'), ("new-file", 'N'), ("recursive", 'r'),
    ("label", 'L'), ("exclude", 'x')], false⟩

def misuseDiff (text : Octets) : Work Unit := do
  complain text 2
  report (hint (← get).name)

def diff (arguments : List Octets) : Work Unit := do
  match differenceOptions.read arguments with
  | .error text => misuseDiff text
  | .ok (flags, names) =>
      let has (c : Char) : Bool := Flag.given flags c
      let given := (Flag.last? flags 'U').bind Octets.int?
      let v : DifferenceView :=
        { around := if has 'u' || has 'U' then some (given.elim 3 Int.toNat) else none
          brief := has 'q', tellsSame := has 's', foldCase := has 'i', noBlanks := has 'w',
          fewBlanks := has 'b', asText := has 'a', newFiles := has 'N', recursive := has 'r',
          labels := (flags.filter fun f => f.letter == 'L').map fun f => f.value,
          options := arguments.filter fun a => a.head? == some '-' && 1 < a.length }
      match names with
      | [] =>
          misuseDiff ("missing operand after ".toList ++
            Octets.quoted (arguments.getLast?.getD (← get).name))
      | [name] => misuseDiff ("missing operand after ".toList ++ Octets.quoted name)
      | [name, other] =>
          let tree := (← get).tree
          match isFolderAt tree name, isFolderAt tree other with
          | true, true => compareFolders v 50 name other
          | false, true => compareFiles v [] name (inside other (lastPiece name))
          | true, false => compareFiles v [] (inside name (lastPiece other)) other
          | false, false => compareFiles v [] name other
      | _ :: _ :: extra :: _ => misuseDiff ("extra operand ".toList ++ Octets.quoted extra)

end LessonAudit.Program.Tool
