import LessonAudit.Program.Edit.Command
set_option autoImplicit false

namespace LessonAudit.Program.Edit

structure ScriptPart where
  file : Option Octets
  text : Octets

structure ScriptFault where
  taken : Option Nat
  start : Nat
  message : Octets

structure Cursor where
  rest : Octets
  taken : Nat

abbrev ScriptReading := StateT Cursor (Except ScriptFault)

def fail {α : Type} (message : String) : ScriptReading α := do
  let taken := (← get).taken
  throw ⟨some taken, taken, message.toList⟩

def take : ScriptReading (Option Char) := do
  match ← get with
  | ⟨[], _⟩ => return none
  | ⟨c :: rest, taken⟩ =>
      set (⟨rest, taken + 1⟩ : Cursor)
      return some c

def peek : ScriptReading (Option Char) :=
  return (← get).rest.head?

def takeWhile (wanted : Char → Bool) : ScriptReading Octets :=
  modifyGet fun s =>
    let run := s.rest.takeWhile wanted
    (run, ⟨s.rest.drop run.length, s.taken + run.length⟩)

def skipBlanks : ScriptReading Unit := do
  let _ ← takeWhile fun c => Octets.isSpace c && c != '\n'

def skipSpaces : ScriptReading Unit := do
  let _ ← takeWhile Octets.isSpace

def takeNumber : ScriptReading Nat :=
  return Octets.value (← takeWhile Char.isDigit)

def escape? (cs : Octets) : Option (Char × Nat) :=
  let coded (base most : Nat) (rest : Octets) (isDigit : Char → Bool) : Option (Char × Nat) :=
    let digits := (rest.take most).takeWhile isDigit
    if digits.isEmpty then none
    else some (Octets.byte (Octets.valueIn base digits), digits.length + 1)
  match cs with
  | 'a' :: _ => some ('\x07', 1)
  | 'f' :: _ => some ('\x0c', 1)
  | 'r' :: _ => some ('\r', 1)
  | 't' :: _ => some ('\t', 1)
  | 'v' :: _ => some ('\x0b', 1)
  | 'c' :: c :: _ => some (Octets.byte (c.toUpper.toNat ^^^ 64), 2)
  | 'd' :: rest => coded 10 3 rest Char.isDigit
  | 'o' :: rest => coded 8 3 rest Octets.isOctal
  | 'x' :: rest => coded 16 2 rest fun c => (Octets.hexDigit? c).isSome
  | _ => none

def resolvedPattern : Nat → Octets → Octets
  | 0, cs => cs
  | _ + 1, [] => []
  | fuel + 1, '\\' :: cs =>
      match escape? cs with
      | some (c, size) => c :: resolvedPattern fuel (cs.drop size)
      | none => '\\' :: cs.take 1 ++ resolvedPattern fuel (cs.drop 1)
  | fuel + 1, c :: cs => c :: resolvedPattern fuel cs

def resolvedText : Nat → Octets → Octets
  | 0, cs => cs
  | _ + 1, [] => []
  | fuel + 1, '\\' :: cs =>
      match cs with
      | [] => []
      | 'n' :: rest => '\n' :: resolvedText fuel rest
      | c :: rest =>
          match escape? cs with
          | some (e, size) => e :: resolvedText fuel (cs.drop size)
          | none => c :: resolvedText fuel rest
  | fuel + 1, c :: cs => c :: resolvedText fuel cs

def bracketLength : Nat → Bool → Octets → Option Nat
  | 0, _, _ => none
  | fuel + 1, first, cs =>
      match cs with
      | [] => none
      | '\n' :: _ => none
      | ']' :: rest => if first then (bracketLength fuel false rest).map Nat.succ else some 1
      | '[' :: mark :: rest =>
          if ".:=".toList.contains mark then
            let inner := rest.takeWhile (· != mark)
            match rest.drop inner.length with
            | _ :: ']' :: more =>
                (bracketLength fuel false more).map fun n => n + inner.length + 4
            | _ => (bracketLength fuel false (mark :: rest)).map Nat.succ
          else (bracketLength fuel false (mark :: rest)).map Nat.succ
      | _ :: rest => (bracketLength fuel false rest).map Nat.succ

def withBreaks : Octets → Octets
  | '\\' :: 'n' :: cs => '\n' :: withBreaks cs
  | c :: cs => c :: withBreaks cs
  | [] => []

def takeDelimited (mark : Char) (expression : Bool) : Nat → Octets → ScriptReading (Option Octets)
  | 0, _ => return none
  | fuel + 1, done => do
      match ← take with
      | none => return none
      | some '\n' =>
          modify fun s => ⟨'\n' :: s.rest, s.taken - 1⟩
          return none
      | some c =>
          if c = mark then return some done.reverse
          else if c = '\\' then
            match ← take with
            | none => return none
            | some e =>
                if e = 'n' && expression then takeDelimited mark expression fuel ('\n' :: done)
                else if e = '\n' || (e = mark && (expression || e != '&')) then
                  takeDelimited mark expression fuel (e :: done)
                else takeDelimited mark expression fuel (e :: '\\' :: done)
          else if c = '[' && expression then
            let cs := (← get).rest
            let lead := if cs.head? = some '^' then 1 else 0
            match bracketLength (cs.length + 1) true (cs.drop lead) with
            | none =>
                let _ ← takeWhile (· != '\n')
                return none
            | some size =>
                let inner := cs.take (lead + size)
                modify fun s => ⟨s.rest.drop inner.length, s.taken + inner.length⟩
                takeDelimited mark expression fuel
                  (((withBreaks inner).reverse ++ ['[']) ++ done)
          else takeDelimited mark expression fuel (c :: done)

def delimited (mark : Char) (expression : Bool) : ScriptReading (Option Octets) := do
  takeDelimited mark expression ((← get).rest.length + 1) []

def pattern (extended : Bool) (flags : List Char) (text : Octets) :
    ScriptReading (Option Pattern) := do
  if text.isEmpty then return none
  else
    let d : Regex.Dialect := ⟨extended, flags.contains 'I', false, flags.contains 'M'⟩
    match Regex.read d (resolvedPattern (text.length + 1) text) with
    | .ok r => return some ⟨r, d⟩
    | .error .classPlace =>
        throw ⟨none, 0, Regex.Fault.classPlace.message.toList⟩
    | .error fault => fail fault.message

def takeMatch (extended : Bool) (mark : Char) : ScriptReading (Option Pattern) := do
  match ← delimited mark true with
  | none => fail "unterminated address regex"
  | some text =>
      let flags ← takeWhile fun c => c == 'I' || c == 'M'
      pattern extended flags text

def matchMark : ScriptReading (Option Char) := do
  match ← peek with
  | some '/' =>
      let _ ← take
      return some '/'
  | some '\\' =>
      let _ ← take
      take
  | _ => return none

def address? (extended : Bool) : ScriptReading (Option Address) := do
  match ← matchMark with
  | some mark => return some (.matching (← takeMatch extended mark))
  | none =>
      match ← peek with
      | some '$' =>
          let _ ← take
          return some .last
      | some c =>
          if c = '+' || c = '~' then
            let _ ← take
            let _ ← takeNumber
            fail "invalid usage of +N or ~N as first address"
          else if c.isDigit then
            let number ← takeNumber
            skipBlanks
            if (← peek) = some '~' then
              let _ ← take
              skipBlanks
              let step ← takeNumber
              if step = 0 then return some (.line number) else return some (.step number step)
            else return some (.line number)
          else return none
      | none => return none

def rangeEnd? (extended : Bool) : ScriptReading (Option RangeEnd) := do
  match ← matchMark with
  | some mark => return some (.matching (← takeMatch extended mark))
  | none =>
      match ← peek with
      | some '$' =>
          let _ ← take
          return some .last
      | some '+' =>
          let _ ← take
          return some (.after (← takeNumber))
      | some '~' =>
          let _ ← take
          return some (.multiple (← takeNumber))
      | some c => if c.isDigit then return some (.line (← takeNumber)) else return none
      | none => return none

def scope (extended : Bool) : ScriptReading Scope := do
  let start ← address? extended
  if start.isSome then skipBlanks
  let stop ←
    if start.isSome && (← peek) = some ',' then do
      let _ ← take
      skipBlanks
      match ← rangeEnd? extended with
      | some stop =>
          skipBlanks
          pure (some stop)
      | none => do
          let _ ← take
          fail "unexpected \x60,\x27"
    else pure none
  match start, stop with
  | some (.line 0), some (.matching _) => pure ()
  | some (.line 0), _ => do
      let _ ← take
      fail "invalid usage of line address 0"
  | _, _ => pure ()
  if (← peek) = some '!' then
    let _ ← take
    skipBlanks
    if (← peek) = some '!' then
      let _ ← take
      fail "multiple \x60!\x27s"
    else return ⟨start, stop, true⟩
  else return ⟨start, stop, false⟩

def endCommand : ScriptReading Unit := do
  skipBlanks
  match ← peek with
  | none | some '\x7d' | some '#' => return ()
  | some '\n' | some ';' =>
      let _ ← take
  | some _ =>
      let _ ← take
      fail "extra characters after command"

def fileName : ScriptReading Octets := do
  skipBlanks
  let name ← takeWhile (· != '\n')
  if name.isEmpty then fail "missing filename in r/R/w/W commands"
  else
    let _ ← take
    return name

def label : ScriptReading Octets := do
  skipBlanks
  takeWhile fun c => !Octets.isSpace c && c != ';' && c != '\x7d'

def textLines : Nat → ScriptReading Octets
  | 0 => return []
  | fuel + 1 => do
      match ← take with
      | none | some '\n' => return ['\n']
      | some '\\' =>
          match ← take with
          | none => return ['\n']
          | some '\n' => return '\n' :: (← textLines fuel)
          | some c => return '\\' :: c :: (← textLines fuel)
      | some c => return c :: (← textLines fuel)

def givenText : ScriptReading Octets := do
  skipBlanks
  match ← peek with
  | none => fail "expected \\ after \x60a\x27, \x60c\x27 or \x60i\x27"
  | some '\\' =>
      let _ ← take
      let rest := (← get).rest
      let blanks := rest.takeWhile Octets.isBlank
      if (rest.drop blanks.length).head? = some '\n' then
        modify fun s => ⟨s.rest.drop (blanks.length + 1), s.taken + blanks.length + 1⟩
      if (← get).rest.isEmpty && (rest.drop blanks.length).head? ≠ some '\n' then return []
      else
        let fuel := (← get).rest.length + 1
        let text ← textLines fuel
        return resolvedText (text.length + 1) text
  | some _ =>
      let fuel := (← get).rest.length + 1
      let text ← textLines fuel
      return resolvedText (text.length + 1) text

def pieces : Nat → Octets → List Piece
  | 0, _ => []
  | _ + 1, [] => []
  | fuel + 1, '&' :: cs => .group 0 :: pieces fuel cs
  | fuel + 1, '\\' :: cs =>
      match cs with
      | [] => []
      | c :: rest =>
          if c.isDigit then .group (c.toNat - 48) :: pieces fuel rest
          else
            match c with
            | 'U' => .casing (some .upper) :: pieces fuel rest
            | 'L' => .casing (some .lower) :: pieces fuel rest
            | 'E' => .casing none :: pieces fuel rest
            | 'u' => .nextCasing .upper :: pieces fuel rest
            | 'l' => .nextCasing .lower :: pieces fuel rest
            | 'n' => .text ['\n'] :: pieces fuel rest
            | _ =>
                match escape? cs with
                | some (e, size) => .text [e] :: pieces fuel (cs.drop size)
                | none => .text [c] :: pieces fuel rest
  | fuel + 1, c :: cs => .text [c] :: pieces fuel cs

def groupCount : Regex → Nat
  | .group number body => max number (groupCount body)
  | .sequence a b | .either a b => max (groupCount a) (groupCount b)
  | .repeated _ _ body => groupCount body
  | _ => 0

structure SubstitutionFlags where
  letters : List Char
  number : Option Nat
  file : Option Octets

def substitutionFlags : Nat → SubstitutionFlags → ScriptReading SubstitutionFlags
  | 0, f => return f
  | fuel + 1, f => do
      match ← peek with
      | none | some '\x7d' | some '#' => return f
      | some c =>
          if c.isDigit then
            let number ← takeNumber
            if f.number.isSome then fail "multiple number options to \x60s\x27 command"
            else if number = 0 then fail "number option to \x60s\x27 command may not be zero"
            else substitutionFlags fuel { f with number := some number }
          else
            let _ ← take
            match c with
            | '\n' | ';' => return f
            | 'i' | 'I' => substitutionFlags fuel { f with letters := 'I' :: f.letters }
            | 'm' | 'M' => substitutionFlags fuel { f with letters := 'M' :: f.letters }
            | 'e' => substitutionFlags fuel f
            | 'p' =>
                if f.letters.contains 'p' then
                  fail "multiple \x60p\x27 options to \x60s\x27 command"
                else substitutionFlags fuel { f with letters := 'p' :: f.letters }
            | 'g' =>
                if f.letters.contains 'g' then
                  fail "multiple \x60g\x27 options to \x60s\x27 command"
                else substitutionFlags fuel { f with letters := 'g' :: f.letters }
            | 'w' => return { f with file := some (← fileName) }
            | _ =>
                if Octets.isSpace c then substitutionFlags fuel f
                else fail "unknown option to \x60s\x27"

def substitution (extended : Bool) : ScriptReading Substitution := do
  let unended {α : Type} : ScriptReading α := fail "unterminated \x60s\x27 command"
  match ← take with
  | none => unended
  | some mark =>
      match ← delimited mark true with
      | none => unended
      | some text =>
          match ← delimited mark false with
          | none => unended
          | some replacement =>
              let fuel := (← get).rest.length + 1
              let f ← substitutionFlags fuel ⟨[], none, none⟩
              let found ← pattern extended f.letters text
              let parts := pieces (replacement.length + 1) replacement
              let most := parts.foldl
                (fun most piece =>
                  match piece with
                  | .group number => max most number
                  | _ => most) 0
              match found with
              | some p =>
                  if groupCount p.regex < most then
                    fail ("invalid reference \\" ++ toString most ++
                      " on \x60s\x27 command\x27s RHS")
              | none => pure ()
              return ⟨found, parts, f.number.getD 1, f.letters.contains 'g', f.letters.contains 'p',
                f.file⟩

def tableCharacters : Nat → Octets → List Char
  | 0, cs => cs
  | _ + 1, [] => []
  | fuel + 1, '\\' :: cs =>
      match cs, escape? cs with
      | 'n' :: rest, _ => '\n' :: tableCharacters fuel rest
      | _, some (c, size) => c :: tableCharacters fuel (cs.drop size)
      | c :: rest, none => c :: tableCharacters fuel rest
      | [], none => ['\\']
  | fuel + 1, c :: cs => c :: tableCharacters fuel cs

def translation : ScriptReading (List (Char × Char)) := do
  let unended {α : Type} : ScriptReading α := fail "unterminated \x60y\x27 command"
  match ← take with
  | none => unended
  | some mark =>
      match ← delimited mark false with
      | none => unended
      | some first =>
          match ← delimited mark false with
          | none => unended
          | some second =>
              let a := tableCharacters (first.length + 1) first
              let b := tableCharacters (second.length + 1) second
              if a.length ≠ b.length then
                fail "strings for \x60y\x27 command are different lengths"
              else
                endCommand
                return (List.zip a b).reverse

structure Draft where
  scope : Scope
  action : Action
  goal : Option Octets

structure Drafts where
  done : List Draft
  count : Nat
  labels : List (Octets × Nat)
  blocks : List (Nat × Nat)
  closed : List (Nat × Nat)
  files : List Octets

def Drafts.add (d : Drafts) (draft : Draft) : Drafts :=
  { d with done := draft :: d.done, count := d.count + 1 }

def plainAction? (letter : Char) : Option Action :=
  match letter with
  | 'd' => some .delete
  | 'D' => some .deleteFirst
  | '=' => some .showNumber
  | 'F' => some .showName
  | 'g' => some .get
  | 'G' => some .getAppend
  | 'h' => some .hold
  | 'H' => some .holdAppend
  | 'x' => some .exchange
  | 'n' => some .next
  | 'N' => some .nextAppend
  | 'p' => some .print
  | 'P' => some .printFirst
  | 'z' => some .clear
  | _ => none

def commandBehind (extended : Bool) (d : Drafts) (s : Scope) (letter : Char) :
    ScriptReading Drafts := do
  let add (action : Action) : Drafts := d.add ⟨s, action, none⟩
  match plainAction? letter with
  | some action =>
      endCommand
      return add action
  | none =>
      match letter with
      | '\x7b' =>
          let d := { add (.block 0) with blocks := (d.count, (← get).taken) :: d.blocks }
          return d
      | '\x7d' =>
          match d.blocks with
          | [] => fail "unexpected \x60\x7d\x27"
          | (opened, _) :: blocks =>
              if s.start.isSome then fail "\x60\x7d\x27 doesn\x27t want any addresses"
              else
                endCommand
                return { add .nothing with
                  blocks := blocks, closed := (opened, d.count) :: d.closed }
      | '#' =>
          if s.start.isSome then fail "comments don\x27t accept any addresses"
          else
            let _ ← takeWhile (· != '\n')
            return d
      | ':' =>
          if s.start.isSome then fail ": doesn\x27t want any addresses"
          else
            let name ← label
            if name.isEmpty then fail "\":\" lacks a label"
            else return { add .nothing with labels := (name, d.count) :: d.labels }
      | 'a' => return add (.append (← givenText))
      | 'i' => return add (.insert (← givenText))
      | 'c' => return add (.change (← givenText))
      | 'b' | 't' | 'T' =>
          let name ← label
          let action : Action :=
            match letter with
            | 'b' => .branch none
            | 't' => .branchIfDone none
            | _ => .branchUnlessDone none
          endCommand
          return d.add ⟨s, action, if name.isEmpty then none else some name⟩
      | 'e' =>
          let _ ← takeWhile (· != '\n')
          return add .nothing
      | 'l' =>
          skipBlanks
          let digits ← takeWhile Char.isDigit
          endCommand
          return add (.showEscaped (if digits.isEmpty then none else some (Octets.value digits)))
      | 'q' | 'Q' =>
          if s.stop.isSome then fail "command only uses one address"
          else
            skipBlanks
            let status ← takeNumber
            endCommand
            return add (if letter = 'q' then .quit status else .quitSilent status)
      | 'r' => return add (.readFile (← fileName))
      | 'R' => return add (.readLine (← fileName))
      | 's' =>
          let found ← substitution extended
          return { add (.substitute found) with files := d.files ++ found.file.toList }
      | 'v' =>
          let _ ← label
          endCommand
          return add .nothing
      | 'w' =>
          let name ← fileName
          return { add (.write name) with files := d.files ++ [name] }
      | 'W' =>
          let name ← fileName
          return { add (.writeFirst name) with files := d.files ++ [name] }
      | 'y' => return add (.translate (← translation))
      | _ =>
          let taken := (← get).taken
          throw ⟨some taken, taken, "unknown command: \x60".toList ++ [letter, '\x27']⟩

def readCommands (extended : Bool) : Nat → Drafts → ScriptReading Drafts
  | 0, d => return d
  | fuel + 1, d => do
      let _ ← takeWhile fun c => Octets.isSpace c || c == ';'
      if (← get).rest.isEmpty then return d
      else
        let s ← scope extended
        match ← take with
        | none => fail "missing command"
        | some letter => readCommands extended fuel (← commandBehind extended d s letter)

def Draft.resolve (d : Drafts) (number : Nat) (draft : Draft) : Except Octets Command :=
  let goal : Except Octets (Option Nat) :=
    match draft.goal with
    | none => .ok none
    | some name =>
        match d.labels.lookup name with
        | some n => .ok (some n)
        | none => .error name
  goal.map fun goal =>
    let action : Action :=
      match draft.action with
      | .branch _ => .branch goal
      | .branchIfDone _ => .branchIfDone goal
      | .branchUnlessDone _ => .branchUnlessDone goal
      | .block _ => .block ((d.closed.lookup number).getD d.count)
      | other => other
    ⟨draft.scope, action⟩

def placeOf (parts : List ScriptPart) (fault : ScriptFault) : Octets :=
  match fault.taken with
  | none => []
  | some taken => within 1 0 parts taken
where
  within (number start : Nat) (parts : List ScriptPart) (taken : Nat) : Octets :=
    match parts with
    | [] => []
    | part :: more =>
        let stop := start + part.text.length
        if fault.start ≤ stop || more.isEmpty then
          match part.file with
          | none =>
              let char := if taken = 0 then 0 else taken - start
              "-e expression #".toList ++ Octets.ofNat number ++ ", char ".toList ++
                Octets.ofNat char ++ ": ".toList
          | some name =>
              let line := (part.text.take (fault.start - start)).count '\n' + 1
              "file ".toList ++ name ++ " line ".toList ++ Octets.ofNat line ++ ": ".toList
        else within (if part.file.isNone then number + 1 else number) (stop + 1) more taken

def wholeText (parts : List ScriptPart) : Octets :=
  Octets.joined ['\n'] (parts.map fun part => part.text)

def Recipe.read (extended silent : Bool) (parts : List ScriptPart) :
    Except (Octets × Nat) Recipe := do
  let text := wholeText parts
  let quiet := text.take 3 = ['#', 'n', '\n'] || text = ['#', 'n']
  match (readCommands extended (text.length + 1) ⟨[], 0, [], [], [], []⟩).run ⟨text, 0⟩ with
  | .error fault =>
      throw (placeOf parts fault ++ fault.message, if fault.taken.isNone then 4 else 1)
  | .ok (d, _) =>
      match d.blocks with
      | (_, place) :: _ =>
          throw (placeOf parts ⟨some 0, place, []⟩ ++ "unmatched \x60\x7b\x27".toList, 1)
      | [] =>
          let found := (d.done.reverse.zipIdx.map fun (draft, n) => draft.resolve d n)
          let missing := found.findSome? fun e =>
            match e with
            | .error name => some name
            | .ok _ => none
          match missing with
          | some name =>
              throw ("can\x27t find label for jump to \x60".toList ++ name ++ ['\x27'], 4)
          | none =>
              return ⟨(found.filterMap Except.toOption).toArray, d.files, silent || quiet⟩

end LessonAudit.Program.Edit
