import LessonAudit.Program.Desk
import LessonAudit.Program.Edit.Script
set_option autoImplicit false

namespace LessonAudit.Program.Edit

structure InputLine where
  text : Octets
  ended : Bool
  file : Octets
  first : Bool
  last : Bool

inductive RangeState where
  | idle
  | active (stop : Option Nat)
  | closed
deriving DecidableEq, Repr

inductive Follower where
  | text (octets : Octets)
  | file (name : Octets)

structure Manner where
  mark : Char
  separate : Bool
  inPlace : Option Octets
  width : Nat

structure Editor where
  space : Octets
  ended : Bool
  held : Octets
  heldEnded : Bool
  number : Nat
  file : Octets
  ahead : List InputLine
  isLast : Bool
  done : Bool
  lastPattern : Option Pattern
  ranges : Array RangeState
  followers : List Follower
  written : List Octets
  lacking : Bool
  outputs : List (Octets × List Octets)
  readers : List (Octets × List Octets)

abbrev Editing := StateT Editor Work

inductive RoundEnd where
  | shown
  | deleted
  | again
  | quit (status : Nat)
  | quitSilent (status : Nat)

def emit (m : Manner) (octets : Octets) : Editing Unit := do
  if m.inPlace.isSome then modify fun e => { e with written := octets :: e.written }
  else Work.put octets

def endLine (m : Manner) : Editing Unit := do
  if (← get).lacking then
    modify fun e => { e with lacking := false }
    emit m [m.mark]

def emitLine (m : Manner) (octets : Octets) (ended : Bool) : Editing Unit := do
  endLine m
  emit m (if ended then octets ++ [m.mark] else octets)
  modify fun e => { e with lacking := !ended }

def writeTo (m : Manner) (name text : Octets) (ended : Bool) : Editing Unit := do
  let octets := if ended then text ++ [m.mark] else text
  match String.ofList name with
  | "/dev/stdout" => if m.inPlace.isSome then Work.put octets else emitLine m text ended
  | "/dev/stderr" =>
      let d ← getThe Desk
      set { d with written := (.err, octets) :: d.written }
  | _ =>
      modify fun e =>
        let before := (e.outputs.lookup name).getD []
        let isOpen := before.head?.any fun chunk => chunk.getLast? != some m.mark
        let octets := if isOpen then m.mark :: octets else octets
        { e with
          outputs := (name, octets :: before) :: e.outputs.filter fun o => o.1 != name }

def emitFollowers (m : Manner) : Editing Unit := do
  let followers := (← get).followers
  if !followers.isEmpty then endLine m
  modify fun e => { e with followers := [] }
  for follower in followers do
    match follower with
    | .text octets => emit m octets
    | .file name =>
        if isInputName name then emit m (← Work.takeInput)
        else
          match readFile (← getThe Desk).tree name with
          | .ok octets => emit m octets
          | .error _ => pure ()

def follow (follower : Follower) : Editing Unit :=
  modify fun e => { e with followers := e.followers ++ [follower] }

def finishFile (m : Manner) : Editing Unit := do
  match m.inPlace with
  | none => return ()
  | some ending =>
      let e ← get
      if e.file.isEmpty then return ()
      else
        let d ← getThe Desk
        if !ending.isEmpty then
          let copy := if ending.contains '*' then
            ending.flatMap fun c => if c = '*' then e.file else [c] else e.file ++ ending
          Work.write copy ((readFile d.tree e.file).toOption.getD [])
        Work.write e.file e.written.reverse.flatten
        set { e with written := [], lacking := false }

def takeLine (m : Manner) (keep : Bool) : Editing Bool := do
  emitFollowers m
  match (← get).ahead with
  | [] => return false
  | line :: ahead =>
      if line.first then
        finishFile m
        if m.separate then modify fun e => { e with number := 0, file := line.file }
        else modify fun e => { e with file := line.file }
      modify fun e =>
        { e with
          space := if keep then e.space ++ m.mark :: line.text else line.text
          ended := line.ended
          number := e.number + 1
          ahead := ahead
          done := false
          isLast := ahead.isEmpty || (m.separate && line.last) }
      return true

def patternOf (p : Option Pattern) : Editing (Option Pattern) := do
  match p with
  | some p =>
      modify fun e => { e with lastPattern := some p }
      return some p
  | none => return (← get).lastPattern

abbrev Checked := ExceptT Octets Editing

def noPattern : Octets :=
  "-e expression #1, char 0: no previous regular expression".toList

def hits (p : Option Pattern) : Checked Bool := do
  match ← patternOf p with
  | none => throw noPattern
  | some p => return (Regex.find? p.dialect p.regex (← get).space).isSome

def isAt (a : Address) : Checked Bool := do
  let e ← get
  match a with
  | .line n => return e.number == n
  | .step first step => return decide (first ≤ e.number) && (e.number - first) % step == 0
  | .last => return e.isLast
  | .matching p => hits p

def beginRange (index : Nat) (stop : RangeEnd) : Editing Unit := do
  let number := (← get).number
  let begin (stop : Option Nat) : Editing Unit :=
    modify fun e => { e with ranges := e.ranges.setIfInBounds index (.active stop) }
  match stop with
  | .line n => if n ≤ number then return () else begin (some n)
  | .after n => if n = 0 then return () else begin (some (number + n))
  | .multiple n =>
      if n = 0 then return () else begin (some (number + (n - number % n)))
  | .last => if (← get).isLast then return () else begin none
  | .matching _ => begin none

def isIn (index : Nat) (s : Scope) : Checked Bool := do
  match s.start, s.stop with
  | none, _ => return true
  | some a, none => isAt a
  | some a, some stop =>
      let close : Editing Unit :=
        modify fun e => { e with ranges := e.ranges.setIfInBounds index .closed }
      match (← get).ranges.getD index .idle with
      | .active (some n) =>
          let number := (← get).number
          if n ≤ number then close
          return decide (number ≤ n)
      | .active none =>
          let done ←
            match stop with
            | .matching p => hits p
            | _ => pure (← get).isLast
          if done then close
          return true
      | _ =>
          if ← isAt a then
            beginRange index stop
            return true
          else return false

def firstRanges (p : Recipe) : Array RangeState :=
  p.commands.map fun c =>
    match c.scope.start, c.scope.stop with
    | some (.line 0), some (.matching _) => .active none
    | _, _ => .idle

def Editor.start (p : Recipe) (lines : List InputLine) : Editor where
  space := []
  ended := true
  held := []
  heldEnded := true
  number := 0
  file := []
  ahead := lines
  isLast := false
  done := false
  lastPattern := none
  ranges := firstRanges p
  followers := []
  written := []
  lacking := false
  outputs := []
  readers := []

def cased (casing : Option Casing) (c : Char) : Char :=
  match casing with
  | some .upper => c.toUpper
  | some .lower => c.toLower
  | none => c

def replacement (pieces : List Piece) (m : Regex.Match) : Octets :=
  let put (state : Octets × Option Casing × Option Casing) (octets : Octets) :
      Octets × Option Casing × Option Casing :=
    octets.foldl
      (fun (done, always, once) c =>
        (cased (if once.isSome then once else always) c :: done, always, none))
      state
  let (done, _, _) := pieces.foldl
    (fun (state : Octets × Option Casing × Option Casing) piece =>
      match piece with
      | .text octets => put state octets
      | .group n => put state (m.group n)
      | .casing casing => (state.1, casing, state.2.2)
      | .nextCasing casing => (state.1, state.2.1, some casing))
    (([], none, none) : Octets × Option Casing × Option Casing)
  done.reverse

def substituteFrom (s : Substitution) (p : Pattern) : Nat → Nat → Option Nat → Regex.Spot →
    List Octets → Octets × Bool
  | 0, _, _, spot, done => (done.reverse.flatten ++ spot.rest, false)
  | fuel + 1, count, last, spot, done =>
      match Regex.findFrom? p.dialect p.regex (spot.rest.length + 1) spot with
      | none => (done.reverse.flatten ++ spot.rest, false)
      | some m =>
          let before := spot.rest.take (m.start - spot.index)
          let behind := spot.skip (m.start - spot.index + m.octets.length)
          let oneOn (done : List Octets) (count : Nat) (last : Option Nat) : Octets × Bool :=
            match behind.rest with
            | [] => (done.reverse.flatten, false)
            | c :: _ => substituteFrom s p fuel count last (behind.skip 1) ([c] :: done)
          if m.octets.isEmpty && last = some m.start then oneOn (before :: done) count none
          else if count < s.number then
            if m.octets.isEmpty then oneOn (before :: done) (count + 1) none
            else
              substituteFrom s p fuel (count + 1) (some behind.index) behind
                (m.octets :: before :: done)
          else
            let done := replacement s.pieces m :: before :: done
            if !s.global then (done.reverse.flatten ++ behind.rest, true)
            else
              let (result, _) :=
                if m.octets.isEmpty then oneOn done (count + 1) none
                else substituteFrom s p fuel (count + 1) (some behind.index) behind done
              (result, true)

def substituted (s : Substitution) (p : Pattern) (text : Octets) : Option Octets :=
  let (result, changed) := substituteFrom s p (text.length + 2) 1 none ⟨none, text, 0, []⟩ []
  if changed then some result else none

def escaped (c : Char) : Octets :=
  if c = '\\' then ['\\', '\\']
  else if Octets.isVisible c then [c]
  else
    match c with
    | '\x07' => ['\\', 'a']
    | '\x08' => ['\\', 'b']
    | '\x0c' => ['\\', 'f']
    | '\n' => ['\\', 'n']
    | '\r' => ['\\', 'r']
    | '\t' => ['\\', 't']
    | '\x0b' => ['\\', 'v']
    | _ => '\\' :: Octets.padLeft '0' 3 (Nat.toDigits 8 c.toNat)

def escapedLines (width : Nat) (text : Octets) : Octets :=
  let (done, _) := text.foldl
    (fun (done, column) c =>
      let shown := escaped c
      if width ≠ 0 && width - 1 < column + shown.length then
        (shown :: ['\\', '\n'] :: done, shown.length)
      else (shown :: done, column + shown.length))
    (([], 0) : List Octets × Nat)
  done.reverse.flatten ++ ['$', '\n']

def firstLine (m : Manner) (space : Octets) : Octets × Option Octets :=
  let first := space.takeWhile (· != m.mark)
  match space.drop first.length with
  | [] => (first, none)
  | _ :: rest => (first, some rest)

abbrev Step := Except RoundEnd Nat

def act (m : Manner) (p : Recipe) (index : Nat) (action : Action) : Checked Step := do
  let go : Checked Step := return .ok (index + 1)
  let jump (goal : Option Nat) : Checked Step := return .ok (goal.getD p.commands.size)
  let e ← get
  match action with
  | .block _ | .nothing => go
  | .append text =>
      follow (.text text)
      go
  | .insert text =>
      endLine m
      emit m text
      go
  | .change text =>
      let isOpen :=
        match e.ranges.getD index .idle with
        | .active _ => true
        | _ => false
      if !isOpen then
        endLine m
        emit m text
      return .error .deleted
  | .branch goal => jump goal
  | .branchIfDone goal =>
      if e.done then
        set { e with done := false }
        jump goal
      else go
  | .branchUnlessDone goal =>
      if e.done then
        set { e with done := false }
        go
      else jump goal
  | .delete => return .error .deleted
  | .deleteFirst =>
      match firstLine m e.space with
      | (_, none) => return .error .deleted
      | (_, some rest) =>
          set { e with space := rest }
          return .error .again
  | .showNumber =>
      endLine m
      emit m (Octets.ofNat e.number ++ ['\n'])
      go
  | .showName =>
      endLine m
      emit m (e.file ++ ['\n'])
      go
  | .showEscaped width =>
      endLine m
      emit m (escapedLines (width.getD m.width) e.space)
      go
  | .get =>
      set { e with space := e.held, ended := e.heldEnded }
      go
  | .getAppend =>
      set { e with space := e.space ++ m.mark :: e.held, ended := e.heldEnded }
      go
  | .hold =>
      set { e with held := e.space, heldEnded := e.ended }
      go
  | .holdAppend =>
      set { e with held := e.held ++ m.mark :: e.space, heldEnded := e.ended }
      go
  | .exchange =>
      set { e with space := e.held, ended := e.heldEnded, held := e.space, heldEnded := e.ended }
      go
  | .next =>
      if e.isLast then return .error .shown
      else
        if !p.silent then emitLine m e.space e.ended
        let _ ← takeLine m false
        go
  | .nextAppend =>
      if e.isLast then return .error .shown
      else
        let _ ← takeLine m true
        go
  | .print =>
      emitLine m e.space e.ended
      go
  | .printFirst =>
      match firstLine m e.space with
      | (first, none) => emitLine m first e.ended
      | (first, some _) => emitLine m first true
      go
  | .quit status => return .error (.quit status)
  | .quitSilent status => return .error (.quitSilent status)
  | .readFile name =>
      follow (.file name)
      go
  | .readLine name =>
      let lines ←
        match e.readers.lookup name with
        | some lines => pure lines
        | none => pure (Octets.lines ((readFile (← getThe Desk).tree name).toOption.getD []))
      match lines with
      | line :: _ => follow (.text (line ++ [m.mark]))
      | [] => pure ()
      modify fun e =>
        { e with readers := (name, lines.tail) :: e.readers.filter fun r => r.1 != name }
      go
  | .write name =>
      writeTo m name e.space e.ended
      go
  | .writeFirst name =>
      writeTo m name (firstLine m e.space).1 true
      go
  | .substitute s =>
      match ← patternOf s.pattern with
      | none => throw noPattern
      | some found =>
          match substituted s found e.space with
          | none => go
          | some space =>
              modify fun e => { e with space := space, done := true }
              if s.shown then emitLine m space e.ended
              match s.file with
              | some name => writeTo m name space e.ended
              | none => pure ()
              go
  | .translate table =>
      set { e with space := e.space.map fun c => (table.lookup c).getD c }
      go
  | .clear =>
      set { e with space := [] }
      go

def runFrom (m : Manner) (p : Recipe) : Nat → Nat → Checked RoundEnd
  | 0, _ => return .shown
  | fuel + 1, index => do
      match p.commands[index]? with
      | none => return .shown
      | some c =>
          if (← isIn index c.scope) != c.scope.inverse then
            match ← act m p index c.action with
            | .ok next => runFrom m p fuel next
            | .error roundEnd => return roundEnd
          else
            match c.action with
            | .block behind => runFrom m p fuel (behind + 1)
            | _ => runFrom m p fuel (index + 1)

def stepLimit : Nat := 1000000

def runRounds (m : Manner) (p : Recipe) : Nat → Bool → Editing (Except Octets Nat)
  | 0, _ => return .ok 0
  | fuel + 1, again => do
      let more ← if again then pure true else takeLine m false
      if !more then return .ok 0
      else
        let showSpace : Editing Unit := do
          let e ← get
          if !p.silent then emitLine m e.space e.ended
        match ← (runFrom m p stepLimit 0).run with
        | .error message => return .error message
        | .ok .shown =>
            showSpace
            emitFollowers m
            runRounds m p fuel false
        | .ok .deleted =>
            emitFollowers m
            runRounds m p fuel false
        | .ok .again =>
            emitFollowers m
            runRounds m p fuel true
        | .ok (.quit status) =>
            showSpace
            emitFollowers m
            return .ok status
        | .ok (.quitSilent status) => return .ok status

end LessonAudit.Program.Edit
