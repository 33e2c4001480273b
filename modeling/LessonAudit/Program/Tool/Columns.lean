import LessonAudit.Program.Tool.View
import LessonAudit.Program.Wildcard
set_option autoImplicit false

namespace LessonAudit.Program.Tool

open Work

structure Extract where
  first : Nat
  last : Option Nat

def Extract.has (e : Extract) (n : Nat) : Bool :=
  decide (e.first ≤ n) && e.last.all fun last => decide (n ≤ last)

def placeOf? (text : Octets) : Option Nat :=
  if Octets.isDecimal text then some (Octets.value text) else none

def Extract.read (fields : Bool) (text : Octets) : Except Octets Extract := do
  let zero : Octets :=
    (if fields then "fields are numbered from 1" else "byte/character positions are numbered from 1"
      ).toList
  let bad (part : Octets) : Octets :=
    (if fields then "invalid field value " else "invalid byte/character position ").toList ++
      Octets.quoted part
  let number (part : Octets) : Except Octets Nat :=
    match placeOf? part with
    | some 0 => .error zero
    | some n => .ok n
    | none => .error (bad part)
  let start := text.takeWhile (· != '-')
  match text.drop start.length with
  | [] =>
      if start.isEmpty then throw zero
      else
        let n ← number start
        return ⟨n, some n⟩
  | _ :: stop =>
      if start.isEmpty && stop.isEmpty then throw "invalid range with no endpoint: -".toList
      else
        let first ← if start.isEmpty then pure 1 else number start
        if stop.isEmpty then return ⟨first, none⟩
        else
          match placeOf? stop with
          | none => throw (bad stop)
          | some last =>
              if last < first then throw "invalid decreasing range".toList
              else return ⟨first, some last⟩

def readExtracts (fields : Bool) (text : Octets) : Except Octets (List Extract) :=
  (Octets.pieces ',' (text.map fun c => if Octets.isBlank c then ',' else c)).mapM
    (Extract.read fields)

def isWanted (extracts : List Extract) (complement : Bool) (n : Nat) : Bool :=
  (extracts.any fun e => e.has n) != complement

def chosen {α : Type} (extracts : List Extract) (complement : Bool) (members : List α) : List α :=
  (members.zipIdx.filter fun e => isWanted extracts complement (e.2 + 1)).map fun e => e.1

def cutOptions : Options :=
  ⟨"nsCz", "bcfdO", [("bytes", 'b'), ("characters", 'c'), ("fields", 'f'), ("delimiter", 'd'),
    ("only-delimited", 's'), ("complement", 'C'), ("output-delimiter", 'O'),
    ("zero-terminated", 'z')], false⟩

def cutLines (flags : List Flag) (extracts : List Extract) (fields : Bool) (names : List Octets) :
    Work Unit := do
  let octets ← readTogether 1 names
  let ending := if Flag.given flags 'z' then '\x00' else '\n'
  let complement := Flag.given flags 'C'
  let mark := ((Flag.last? flags 'd').getD ['\t']).headD '\x00'
  let between := (Flag.last? flags 'O').getD [mark]
  let shown := (Octets.linesBy ending octets).filterMap fun line =>
    if !fields then some (chosen extracts complement line)
    else if !line.contains mark then (if Flag.given flags 's' then none else some line)
    else some (Octets.joined between (chosen extracts complement (Octets.pieces mark line)))
  put (shown.flatMap fun line => line ++ [ending])

def cut (arguments : List Octets) : Work Unit := do
  withOptions 1 cutOptions arguments fun flags names => do
    let lists := flags.filter fun f => "bcf".toList.contains f.letter
    match lists with
    | [] => misuse "you must specify a list of bytes, characters, or fields".toList 1
    | _ :: _ :: _ => misuse "only one list may be specified".toList 1
    | [list] =>
        let fields := list.letter == 'f'
        if 1 < ((Flag.last? flags 'd').getD []).length then
          misuse "the delimiter must be a single character".toList 1
        else if !fields && Flag.given flags 'd' then
          misuse "an input delimiter may be specified only when operating on fields".toList 1
        else if !fields && Flag.given flags 's' then
          misuse ("suppressing non-delimited lines makes sense\n" ++
            "\tonly when operating on fields").toList 1
        else
          match readExtracts fields list.value with
          | .error text => misuse text 1
          | .ok extracts => cutLines flags extracts fields names

def pasteMarks : Nat → Octets → List Octets
  | 0, _ => []
  | _ + 1, [] => []
  | fuel + 1, '\\' :: c :: rest =>
      let mark : Octets :=
        match c with
        | '0' => []
        | 'n' => ['\n']
        | 't' => ['\t']
        | _ => [c]
      mark :: pasteMarks fuel rest
  | fuel + 1, c :: rest => [c] :: pasteMarks fuel rest

def joinedBy (marks : List Octets) : Nat → List Octets → Octets
  | _, [] => []
  | _, [last] => last
  | n, line :: more => line ++ marks.getD (n % max 1 marks.length) [] ++ joinedBy marks (n + 1) more

def rowsOf : Nat → List (List Octets) → List (List Octets)
  | 0, _ => []
  | fuel + 1, columns =>
      if columns.all List.isEmpty then []
      else (columns.map fun lines => lines.headD []) :: rowsOf fuel (columns.map List.tail)

def inTurn (count : Nat) (lines : List Octets) (start : Nat) : List Octets :=
  (lines.zipIdx.filter fun e => e.2 % count == start).map fun e => e.1

def paste (arguments : List Octets) : Work Unit := do
  withOptions 1 ⟨"sz", "d", [("delimiters", 'd'), ("serial", 's')], false⟩ arguments
    fun flags names => do
      let marks := (Flag.last? flags 'd').elim [['\t']] fun text =>
        pasteMarks (text.length + 1) text
      let marks := if marks.isEmpty then [[]] else marks
      let names := if names.isEmpty then [['-']] else names
      if Flag.given flags 's' then
        for name in names do
          let octets ← readOr 1 name
          if octets.isSome || !isMissing (← get).tree name then
            putLine (joinedBy marks 0 (Octets.lines (octets.getD [])))
      else
        let fromInput := names.filter fun name => name == ['-']
        let input ← if fromInput.isEmpty then pure [] else takeInput
        let lines := Octets.lines input
        let mut columns : List (List Octets) := []
        let mut turn := 0
        let tree := (← get).tree
        match names.find? (isMissing tree) with
        | some name =>
            let _ ← readOr 1 name
            return
        | none => pure ()
        for name in names do
          if name = ['-'] then
            columns := columns ++ [inTurn fromInput.length lines turn]
            turn := turn + 1
          else columns := columns ++ [Octets.lines ((← readOr 1 name).getD [])]
        let count := (columns.map List.length).foldl max 0
        (rowsOf (count + 1) columns).forM fun row => putLine (joinedBy marks 0 row)

inductive SetPart where
  | members (octets : Octets)
  | named (name : String)
  | fill (c : Char)

def allOctets : Octets :=
  (List.range 256).map Char.ofNat

def classNames : List String :=
  ["alnum", "alpha", "blank", "cntrl", "digit", "graph", "lower", "print", "punct", "space",
    "upper", "xdigit"]

def setCharacter (cs : Octets) : Option (Char × Nat) :=
  match cs with
  | [] => none
  | '\\' :: rest =>
      let octal := (rest.take 3).takeWhile Octets.isOctal
      if !octal.isEmpty then some (Octets.byte (Octets.valueIn 8 octal), octal.length + 1)
      else
        match rest with
        | [] => some ('\\', 1)
        | c :: _ => some ((Format.letterEscape? .shell c).getD c, 2)
  | c :: _ => some (c, 1)

def repetition? (cs : Octets) : Option (Option Nat × Nat) :=
  let digits := cs.takeWhile Char.isDigit
  match cs.drop digits.length with
  | ']' :: _ =>
      let n := if digits.head? = some '0' then Octets.valueIn 8 digits else Octets.value digits
      some (if n = 0 then none else some n, digits.length + 1)
  | _ => none

def readSet : Nat → Octets → Except Octets (List SetPart)
  | 0, _ => .ok []
  | _ + 1, [] => .ok []
  | fuel + 1, cs => do
      match cs with
      | '[' :: ':' :: rest =>
          let name := rest.takeWhile (· != ':')
          if (rest.drop name.length).take 2 = [':', ']'] then
            let text := String.ofList name
            if classNames.contains text then
              return .named text :: (← readSet fuel (rest.drop (name.length + 2)))
            else throw ("invalid character class ".toList ++ Octets.quoted name)
          else return .members ['['] :: (← readSet fuel (cs.drop 1))
      | '[' :: '=' :: c :: '=' :: ']' :: rest => return .members [c] :: (← readSet fuel rest)
      | '[' :: rest =>
          match setCharacter rest with
          | some (c, size) =>
              match rest.drop size with
              | '*' :: behind =>
                  match repetition? behind with
                  | some (count, used) =>
                      let part : SetPart :=
                        count.elim (.fill c) fun n => .members (List.replicate n c)
                      return part :: (← readSet fuel (behind.drop used))
                  | none => return .members ['['] :: (← readSet fuel rest)
              | _ => range fuel cs
          | none => range fuel cs
      | _ => range fuel cs
where
  range (fuel : Nat) (cs : Octets) : Except Octets (List SetPart) := do
    match setCharacter cs with
    | none => return []
    | some (a, size) =>
        match cs.drop size with
        | '-' :: behind =>
            match setCharacter behind with
            | some (b, used) =>
                if b < a then
                  throw ("range-endpoints of ".toList ++
                    Octets.quoted (cs.take (size + 1 + used)) ++
                    " are in reverse collating sequence order".toList)
                else
                  let between := (List.range (b.toNat - a.toNat + 1)).map fun n =>
                    Char.ofNat (a.toNat + n)
                  return .members between :: (← readSet fuel (behind.drop used))
            | none => return .members [a] :: (← readSet fuel (cs.drop size))
        | _ => return .members [a] :: (← readSet fuel (cs.drop size))

def membersOf (parts : List SetPart) (length : Nat) : Octets :=
  let plain (part : SetPart) : Octets :=
    match part with
    | .members octets => octets
    | .named name => allOctets.filter (CharSet.isOf name)
    | .fill _ => []
  let fixed := Octets.total (parts.map plain)
  parts.flatMap fun part =>
    match part with
    | .fill c => List.replicate (length - fixed) c
    | other => plain other

def exchanged (first second : Array Char) (c : Char) : Char :=
  match first.toList.reverse.idxOf? c with
  | none => c
  | some fromEnd => second.getD (first.size - 1 - fromEnd) c

def withoutRepeats (members : Char → Bool) : Octets → Octets
  | a :: b :: rest =>
      if a = b && members a then withoutRepeats members (a :: rest)
      else a :: withoutRepeats members (b :: rest)
  | octets => octets
termination_by octets => octets.length

def hasCase (parts : List SetPart) : Bool :=
  parts.any fun part =>
    match part with
    | .named name => name == "upper" || name == "lower"
    | _ => false

def hasOtherClass (parts : List SetPart) : Bool :=
  parts.any fun part =>
    match part with
    | .named name => !(name == "upper" || name == "lower")
    | _ => false

def memberTable (octets : Octets) : Array Bool :=
  octets.foldl (fun table c => table.setIfInBounds c.toNat true) (Array.replicate 256 false)

def inTable (table : Array Bool) (c : Char) : Bool :=
  table.getD c.toNat false

def exchange (flags : List Flag) (first : List SetPart) (second : Option (List SetPart)) :
    Work Unit := do
  let has (c : Char) : Bool := Flag.given flags c
  let complement := has 'c' || has 'C'
  let plain := membersOf first 0
  let table := memberTable plain
  let members := if complement then allOctets.filter fun c => !inTable table c else plain
  let isMember (c : Char) : Bool := inTable table c != complement
  let input ← takeInput
  match second with
  | none =>
      if has 'd' then put (input.filter fun c => !isMember c)
      else put (withoutRepeats isMember input)
  | some parts =>
      if has 'd' then
        let others := memberTable (membersOf parts 0)
        put (withoutRepeats (inTable others) (input.filter fun c => !isMember c))
      else
        let second := membersOf parts members.length
        let (members, second) :=
          if has 't' then (members.take second.length, second)
          else
            let last := second.getLast?.getD ' '
            (members, second ++ List.replicate (members.length - second.length) last)
        let (a, b) := (members.toArray, second.toArray)
        let codes : Array Char := (allOctets.map (exchanged a b)).toArray
        let octets := input.map fun c => codes.getD c.toNat c
        let others := memberTable second
        put (if has 's' then withoutRepeats (inTable others) octets else octets)

def tr (arguments : List Octets) : Work Unit := do
  let o : Options :=
    ⟨"cCdst", "", [("complement", 'c'), ("delete", 'd'), ("squeeze-repeats", 's'),
      ("truncate-set1", 't')], true⟩
  withOptions 1 o arguments fun flags sets => do
    let has (c : Char) : Bool := Flag.given flags c
    let needsTwo := has 'd' == has 's'
    let after (text : Octets) : Octets := "missing operand after ".toList ++ Octets.quoted text
    sets.forM fun set => do
      if (set.reverse.takeWhile (· == '\\')).length % 2 = 1 then
        report "warning: an unescaped backslash at end of string is not portable".toList
    match sets with
    | [] => misuse "missing operand".toList 1
    | [a] =>
        if needsTwo then
          misuse (after a ++ (if has 'd' then
            "\nTwo strings must be given when both deleting and squeezing repeats."
            else "\nTwo strings must be given when translating.").toList) 1
        else
          match readSet (a.length + 1) a with
          | .error text => complain text 1
          | .ok first => exchange flags first none
    | [a, b] =>
        if has 'd' && !has 's' then
          misuse ("extra operand ".toList ++ Octets.quoted b ++
            "\nOnly one string may be given when deleting without squeezing repeats.".toList) 1
        else
          match readSet (a.length + 1) a, readSet (b.length + 1) b with
          | .error text, _ | _, .error text => complain text 1
          | .ok first, .ok second =>
              if !has 'd' && b.isEmpty && !has 't' then
                complain "when not truncating set1, string2 must be non-empty".toList 1
              else if !has 'd' && hasOtherClass second then
                complain ("when translating, the only character classes that may " ++
                  "appear in\nstring2 are \x27upper\x27 and \x27lower\x27").toList 1
              else if !has 'd' && hasCase second && !hasCase first then
                complain "misaligned [:upper:] and/or [:lower:] construct".toList 1
              else exchange flags first (some second)
    | _ :: _ :: extra :: _ => misuse ("extra operand ".toList ++ Octets.quoted extra) 1

end LessonAudit.Program.Tool
