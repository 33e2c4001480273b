import LessonAudit.Program.Shell.Delegation
set_option autoImplicit false

namespace LessonAudit.Program.Shell.Find

open Tool (inside lastPiece)

inductive Test where
  | name (foldCase whole : Bool) (pattern : List Wildcard.Item)
  | matching (foldCase : Bool) (pattern : Regex)
  | kind (letters : List Char)
  | empty
  | size (sign : Option Char) (count unit : Nat)
  | truth (value : Bool)
  | print (mark : Char)
  | format (text : Octets)
  | delete
  | prune
  | quit
  | each (command : List Octets)
  | together (number : Nat)

inductive Condition where
  | test (t : Test)
  | negation (c : Condition)
  | both (first second : Condition)
  | either (first second : Condition)
  | last (first second : Condition)

structure Draft where
  rest : List Octets
  least : Nat
  most : Option Nat
  inner : Bool
  acts : Bool
  commands : List (List Octets)

abbrev Reading := StateT Draft (Except Octets)

def missing {α : Type} (option : Octets) : Reading α :=
  throw ("missing argument to \x60".toList ++ option ++ ['\x27'])

def argument (option : Octets) : Reading Octets := do
  let d ← get
  match d.rest with
  | [] => missing option
  | a :: more =>
      set { d with rest := more }
      return a

def command (option : Octets) : Reading (List Octets × Bool) := do
  let d ← get
  let ends (n : Nat) : Bool :=
    match d.rest[n]? with
    | some [';'] => true
    | some ['+'] => 0 < n && d.rest[n - 1]? == some ['\x7b', '\x7d']
    | _ => false
  match (List.range d.rest.length).find? ends with
  | none | some 0 => missing option
  | some n =>
      set { d with rest := d.rest.drop (n + 1), acts := true }
      let together := d.rest[n]? == some ['+']
      return (d.rest.take (if together then n - 1 else n), together)

def wildcard (foldCase : Bool) (text : Octets) : List Wildcard.Item :=
  Wildcard.read (text.map fun c => ⟨if foldCase then c.toLower else c, false⟩)

def signed (text : Octets) : Option Char × Octets :=
  match text with
  | '+' :: rest => (some '+', rest)
  | '-' :: rest => (some '-', rest)
  | _ => (none, text)

def sizeUnit? (text : Octets) : Option Nat :=
  match text with
  | [] | ['b'] => some 512
  | ['c'] => some 1
  | ['w'] => some 2
  | ['k'] => some 1024
  | ['M'] => some 1048576
  | ['G'] => some 1073741824
  | _ => none

def level (option : Octets) : Reading Nat := do
  let text ← argument option
  if Octets.isDecimal text then return Octets.value text
  else
    throw ("Expected a positive decimal integer argument to ".toList ++ option ++
      ", but got ".toList ++ Octets.quoted text)

def pattern (d : Regex.Dialect) (text : Octets) : Reading Regex := do
  match Regex.read d text with
  | .ok r => return r
  | .error fault =>
      throw ("failed to compile regular expression ".toList ++ Octets.quoted text ++ ": ".toList ++
        fault.message.toList)

def readTest (option : Octets) : Reading Test := do
  let acting (t : Test) : Reading Test := do
    modify fun d => { d with acts := true }
    return t
  match String.ofList option with
  | "-name" => return .name false false (wildcard false (← argument option))
  | "-iname" => return .name true false (wildcard true (← argument option))
  | "-path" | "-wholename" => return .name false true (wildcard false (← argument option))
  | "-ipath" | "-iwholename" => return .name true true (wildcard true (← argument option))
  | "-regex" => return .matching false (← pattern ⟨false, false, true, false⟩ (← argument option))
  | "-iregex" => return .matching true (← pattern ⟨false, true, true, false⟩ (← argument option))
  | "-type" =>
      let kinds := (Octets.pieces ',' (← argument option)).flatten
      match kinds.find? fun c => !"fdlbcps".toList.contains c with
      | some c => throw ("Unknown argument to -type: ".toList ++ [c])
      | none => return .kind kinds
  | "-empty" => return .empty
  | "-size" =>
      let text ← argument option
      let (sign, body) := signed text
      let digits := body.takeWhile Char.isDigit
      let unit := body.drop digits.length
      match sizeUnit? unit with
      | some unit =>
          if digits.isEmpty then
            throw ("Invalid argument \x60".toList ++ text ++ "\x27 to -size".toList)
          else return .size sign (Octets.value digits) unit
      | none => throw ("invalid -size type \x60".toList ++ unit.take 1 ++ ['\x27'])
  | "-true" => return .truth true
  | "-false" => return .truth false
  | "-maxdepth" =>
      let n ← level option
      modify fun d => { d with most := some n }
      return .truth true
  | "-mindepth" =>
      let n ← level option
      modify fun d => { d with least := n }
      return .truth true
  | "-depth" =>
      modify fun d => { d with inner := true }
      return .truth true
  | "-print" => acting (.print '\n')
  | "-print0" => acting (.print '\x00')
  | "-printf" => do
      let text ← argument option
      acting (.format text)
  | "-delete" =>
      modify fun d => { d with inner := true }
      acting .delete
  | "-prune" => return .prune
  | "-quit" => acting .quit
  | "-exec" | "-execdir" =>
      let (words, together) ← command option
      if together then
        let number := (← get).commands.length
        modify fun d => { d with commands := d.commands ++ [words] }
        return .together number
      else return .each words
  | _ =>
      if option.head? = some '-' then throw ("unknown predicate \x60".toList ++ option ++ ['\x27'])
      else throw ("paths must precede expression: \x60".toList ++ option ++ ['\x27'])

def accept (words : List String) : Reading (Option Octets) := do
  let d ← get
  match d.rest with
  | a :: more =>
      if words.any fun w => w.toList == a then
        set { d with rest := more }
        return some a
      else return none
  | [] => return none

def upcoming : Reading (Option Octets) := do
  return (← get).rest.head?

mutual

def readLast (fuel : Nat) (before : Octets) : Reading Condition :=
  match fuel with
  | 0 => missing before
  | fuel + 1 => do
      let first ← readEither fuel before
      match ← accept [","] with
      | some word => return .last first (← readLast fuel word)
      | none => return first

def readEither (fuel : Nat) (before : Octets) : Reading Condition :=
  match fuel with
  | 0 => missing before
  | fuel + 1 => do
      let first ← readBoth fuel before
      match ← accept ["-o", "-or"] with
      | some word => return .either first (← readEither fuel word)
      | none => return first

def readBoth (fuel : Nat) (before : Octets) : Reading Condition :=
  match fuel with
  | 0 => missing before
  | fuel + 1 => do
      let first ← readSingle fuel before
      match ← accept ["-a", "-and"] with
      | some word => return .both first (← readBoth fuel word)
      | none =>
          match ← upcoming with
          | none => return first
          | some a =>
              if ["-o", "-or", ",", ")"].contains (String.ofList a) then return first
              else return .both first (← readBoth fuel a)

def readSingle (fuel : Nat) (before : Octets) : Reading Condition :=
  match fuel with
  | 0 => missing before
  | fuel + 1 => do
      match ← upcoming with
      | none => throw ("expected an expression after ".toList ++ Octets.quoted before)
      | some a =>
          modify fun d => { d with rest := d.rest.drop 1 }
          match String.ofList a with
          | "!" | "-not" => return .negation (← readSingle fuel a)
          | "(" =>
              if (← upcoming) = some [')'] then
                throw "invalid expression; empty parentheses are not allowed.".toList
              let inner ← readLast fuel a
              match ← accept [")"] with
              | some _ => return inner
              | none =>
                  throw ("invalid expression; I was expecting to find a \x27)\x27 somewhere " ++
                    "but did not see one.").toList
          | ")" => throw "you have too many \x27)\x27".toList
          | "-o" | "-or" | "-a" | "-and" | "," =>
              throw ("invalid expression; you have used a binary operator ".toList ++
                Octets.quoted a ++ " with nothing before it.".toList)
          | _ => return .test (← readTest a)

end

def read (arguments : List Octets) : Except Octets (Condition × Draft) := do
  let start : Draft := ⟨arguments, 0, none, false, false, []⟩
  if arguments.isEmpty then return (.test (.print '\n'), start)
  let (c, d) ← (readLast (5 * arguments.length + 5) []).run start
  match d.rest with
  | [] => return (if d.acts then c else .both c (.test (.print '\n')), d)
  | [')'] :: _ => throw "you have too many \x27)\x27".toList
  | a :: _ => throw ("paths must precede expression: \x60".toList ++ a ++ ['\x27'])

structure Hit where
  path : Octets
  start : Octets
  depth : Nat
  place : FilePlace
  entry : Entry

structure Progress where
  name : Octets
  ended : Bool
  failed : Bool
  held : List (Nat × Octets)

abbrev Search := StateT Progress Act

def complain (text : Octets) : Search Unit := do
  remark (← get).name text
  modify fun p => { p with failed := true }

def kindLetter : Entry → Char
  | .folder => 'd'
  | .link _ => 'l'
  | .sink | .zeros | .full => 'c'
  | _ => 'f'

def formatted (h : Hit) : Nat → Octets → Octets
  | 0, _ => []
  | _ + 1, [] => []
  | fuel + 1, '%' :: c :: rest =>
      let fact : Octets :=
        match c with
        | 'p' => h.path
        | 'f' => lastPiece h.path
        | 'P' => (h.path.drop h.start.length).dropWhile (· == '/')
        | 'H' => h.start
        | 'h' =>
            let name := lastPiece h.path
            if name.length = h.path.length then ['.']
            else h.path.take (h.path.length - name.length - 1)
        | 's' => Octets.ofNat (Tool.entrySize h.entry)
        | 'y' => [kindLetter h.entry]
        | 'd' => Octets.ofNat h.depth
        | 'm' => (Tool.entryRights h.entry).1.toList
        | 'M' => (Tool.entryRights h.entry).2.toList
        | 'u' | 'g' => "root".toList
        | '%' => ['%']
        | _ => ['%', c]
      fact ++ formatted h fuel rest
  | fuel + 1, '\\' :: rest =>
      let (octets, count) := Format.escape .tool rest
      octets ++ formatted h fuel (rest.drop count)
  | fuel + 1, c :: rest => c :: formatted h fuel rest

def fitsSize (sign : Option Char) (count unit size : Nat) : Bool :=
  let units := (size + unit - 1) / unit
  match sign with
  | some '+' => decide (count < units)
  | some _ => decide (units < count)
  | none => units == count

def runCommand (r : Runner) (environment : Environment) (words : List Octets) :
    Search Bool := do
  match ← (runNamed r environment (words.headD []) words.tail : Act _) with
  | .ok ending => return ending.status = 0
  | .error fault =>
      remark (← get).name (Octets.quoted (words.headD []) ++ ": ".toList ++ fault.toolReason.toList)
      return false

def Test.run (r : Runner) (environment : Environment) (h : Hit) (t : Test) :
    Search (Bool × Bool) := do
  let tree := (← (get : Act State)).machine.tree
  let cased (foldCase : Bool) (text : Octets) : Octets :=
    if foldCase then text.map Char.toLower else text
  match t with
  | .name foldCase whole pattern =>
      let text := if whole then h.path else lastPiece h.path
      return (Wildcard.fits pattern (cased foldCase text), false)
  | .matching foldCase pattern =>
      let found := Regex.matchAt? ⟨false, foldCase, true, false⟩ pattern ⟨none, h.path, 0, []⟩
      return (found.any fun m => m.octets.length == h.path.length, false)
  | .kind letters => return (letters.contains (kindLetter h.entry), false)
  | .empty =>
      match h.entry with
      | .folder => return ((tree.names h.place).isEmpty, false)
      | .file bytes _ => return (bytes.isEmpty, false)
      | _ => return (false, false)
  | .size sign count unit => return (fitsSize sign count unit (Tool.entrySize h.entry), false)
  | .truth value => return (value, false)
  | .print mark =>
      Act.write 1 (h.path ++ [mark])
      return (true, false)
  | .format text =>
      Act.write 1 (formatted h (text.length + 1) text)
      return (true, false)
  | .delete =>
      if h.path = ['.'] then return (true, false)
      else if h.entry matches .folder && !(tree.names h.place).isEmpty then
        complain ("cannot delete ".toList ++ Octets.quoted h.path ++
          ": Directory not empty".toList)
        return (false, false)
      else
        modifyThe State fun s =>
          { s with machine := { s.machine with tree := Tool.without tree h.place } }
        return (true, false)
  | .prune => return (true, true)
  | .quit =>
      modify fun p => { p with ended := true }
      return (true, false)
  | .each words =>
      let words := words.map fun a => replaced "\x7b\x7d".toList h.path (a.length + 1) a
      return (← runCommand r environment words, false)
  | .together number =>
      modify fun p => { p with held := (number, h.path) :: p.held }
      return (true, false)

def Condition.run (r : Runner) (environment : Environment) (h : Hit) :
    Condition → Search (Bool × Bool)
  | .test t => do if (← get).ended then return (false, false) else t.run r environment h
  | .negation c => do
      let (truth, pruned) ← c.run r environment h
      return (!truth, pruned)
  | .both first second => do
      let (truth, pruned) ← first.run r environment h
      if truth then
        let (truth, again) ← second.run r environment h
        return (truth, pruned || again)
      else return (false, pruned)
  | .either first second => do
      let (truth, pruned) ← first.run r environment h
      if truth then return (true, pruned)
      else
        let (truth, again) ← second.run r environment h
        return (truth, pruned || again)
  | .last first second => do
      let (_, pruned) ← first.run r environment h
      let (truth, again) ← second.run r environment h
      return (truth, pruned || again)

def depthLimit : Nat := 200

def walk (r : Runner) (environment : Environment) (c : Condition) (d : Draft) (follows : Bool)
    (start : Octets) : Nat → Nat → Octets → Search Unit
  | 0, _, _ => return ()
  | fuel + 1, depth, path => do
      if (← get).ended then return ()
      let tree := (← (get : Act State)).machine.tree
      let found :=
        match tree.findOwn (pathOf path) with
        | .ok (place, .link target) =>
            if follows then (tree.find (pathOf path)).toOption.getD (place, .link target)
            else (place, .link target)
        | .ok found => found
        | .error _ => ([], .folder)
      match tree.findOwn (pathOf path) with
      | .error fault =>
          complain (Octets.quoted path ++ ": ".toList ++ fault.reason.toList)
      | .ok _ =>
          let (place, entry) := found
          let h : Hit := ⟨path, start, depth, place, entry⟩
          let visit : Search Bool := do
            if depth < d.least then return false else return (← c.run r environment h).2
          let pruned ← if d.inner then pure false else visit
          let isDeep := d.most.any fun most => decide (most ≤ depth)
          if !pruned && !isDeep && entry matches .folder then
            let names := ((tree.names place).map Octets.ofBytes).mergeSort fun a b =>
              !Octets.before b a
            for name in names do
              walk r environment c d follows start fuel (depth + 1) (inside path name)
          if d.inner then
            let _ ← visit
            return ()

def startsCondition (a : Octets) : Bool :=
  (a.head? == some '-' && decide (1 < a.length)) || ["(", ")", "!", ","].contains (String.ofList a)

def run (r : Runner) (name : Octets) (environment : Environment) (arguments : List Octets) :
    Act Ending := do
  let isGlobal (a : Octets) : Bool := ["-L", "-H", "-P"].contains (String.ofList a)
  let globals := arguments.takeWhile isGlobal
  let rest := arguments.drop globals.length
  let paths := rest.takeWhile fun a => !startsCondition a
  match read (rest.drop paths.length) with
  | .error text =>
      remark name text
      return .exited 1
  | .ok (c, d) =>
      let follows := globals.getLast? == some "-L".toList
      let work : Search Unit := do
        for path in if paths.isEmpty then [['.']] else paths do
          walk r environment c d follows path depthLimit 0 path
        for (words, number) in d.commands.zipIdx do
          let held := (← get).held.reverse.filter fun e => e.1 == number
          if !held.isEmpty then
            let fine ← runCommand r environment (words ++ held.map fun e => e.2)
            if !fine then modify fun p => { p with failed := true }
      let (_, p) ← work.run ⟨name, false, false, []⟩
      return .exited (if p.failed then 1 else 0)

end LessonAudit.Program.Shell.Find
