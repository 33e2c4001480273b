import LessonAudit.Program.Shell.Builtin
set_option autoImplicit false

namespace LessonAudit.Program.Shell

open Script (Command Redirect Word)

def ended (r : Runner) (act : Act Unit) (s : State) : Except Halt Ending × State :=
  let ending (result : Except Halt Unit) (status : Nat) (s : State) :
      Except Halt Ending × State :=
    match result with
    | .error (.signal number process) =>
        if process = s.process then (.ok (.killed number), s)
        else (.error (.signal number process), s)
    | _ => (.ok (.exited (status % 256)), s)
  let (result, s) := act.run s
  match result, s.traps.lookup 0 with
  | .error (.signal ..), _ | _, none => ending result s.status s
  | _, some action =>
      let traps := s.traps.filter fun e => e.1 != 0
      let leaving := { s with traps := traps, leaving := some s.status }
      let (last, t) := (r.script false action).run leaving
      match last with
      | .error .leave => ending last t.status t
      | _ => ending last s.status t

def inProcess (r : Runner) (act : Act Unit) : Act Ending := do
  let s ← get
  let number := s.machine.processes + 1
  let inner : State :=
    { s with
      machine := { s.machine with processes := number }
      family := number :: s.family
      traps := s.traps.filter fun e => e.2.isEmpty
      pending := []
      jobs := []
      leaving := none }
  let (result, t) := ended r act inner
  let tree := { t.machine.tree with here := s.machine.tree.here }
  let s := { s with machine := { t.machine with tree := tree } }
  set s
  match result with
  | .ok ending => return ending
  | .error (.signal signal process) =>
      match s.traps.lookup signal with
      | some action =>
          if process = s.process then
            if action.isEmpty then pure ()
            else set { s with pending := s.pending ++ [signal] }
            return .exited 0
          else throw (.signal signal process)
      | none => throw (.signal signal process)
  | .error halt => throw halt

def outputOf (r : Runner) : Outputs := fun body => do
  match body with
  | none => return []
  | some c =>
      let channel ← Act.addChannel (.drain [])
      let ending ← r.apart do
        Act.lead 1 channel
        r.run false c
      tellEnding ending
      modify fun s => { s with outputStatus := ending.status }
      return (← get).machine.drained channel

def runTraps (r : Runner) : Nat → Act Unit
  | 0 => return ()
  | fuel + 1 => do
      let s ← get
      match s.pending with
      | [] => return ()
      | signal :: more =>
          set { s with pending := more }
          match s.traps.lookup signal with
          | some action =>
              r.script false action
              Act.setStatus s.status
          | none => pure ()
          runTraps r fuel

def runPending (r : Runner) : Act Unit := do
  runTraps r (← get).pending.length

def checkStrict (tested : Bool) : Act Unit := do
  let s ← get
  if s.has 'e' && !tested && s.status != 0 then throw .leave else return ()

def withRoutes (r : Runner) (redirects : List Redirect) (act : Act Unit) : Act Unit := do
  if redirects.isEmpty then act
  else
    let routes ← redirects.mapM (Redirect.route (outputOf r))
    let streams := (← get).streams
    Act.thenAlways
      (do if ← attempt (performAll (outputOf r) routes) then act else Act.setStatus 2)
      (modify fun s => { s with streams := streams })

def special (work : Runner → List Octets → Act Unit) : Builtin := ⟨true, false, work⟩
def regular (work : Runner → List Octets → Act Unit) : Builtin := ⟨false, false, work⟩

def execute (r : Runner) (arguments : List Octets) : Act Unit := do
  let (_, rest) ← Builtin.options "" arguments
  match rest with
  | [] => Act.setStatus 0
  | name :: more =>
      let s ← get
      let result ←
        match s.locate name with
        | .error fault => pure (Except.error fault)
        | .ok path => r.program s.environment path name more
      match result with
      | .ok (.killed signal) => throw (.signal signal s.process)
      | .ok (.exited status) =>
          modify fun s => { s with status := status, traps := [] }
          throw .leave
      | .error fault =>
          Act.complain (name ++ ": ".toList ++ fault.reason.toList)
          Act.setStatus fault.status
          throw .leave

def builtinNames : List String :=
  [".", ":", "[", "alias", "bg", "break", "cd", "chdir", "command", "continue", "echo", "eval",
    "exec", "exit", "export", "false", "fg", "getopts", "hash", "jobs", "kill", "local", "printf",
    "pwd", "read", "readonly", "return", "set", "shift", "test", "times", "trap", "true", "type",
    "ulimit", "umask", "unalias", "unset", "wait"]

def describe (s : State) (known : Bool) (name : Octets) : Except Octets Octets :=
  let text := String.ofList name
  if Script.Token.keywords.contains text then .ok " is a shell keyword".toList
  else
    match s.aliases.lookup name, s.functions.lookup name with
    | some value, _ => .ok (" is an alias for ".toList ++ value)
    | none, some _ => .ok " is a shell function".toList
    | none, none =>
        if builtinNames.contains text then
          let isSpecial := Script.specialNames.contains text || text == "local"
          .ok (if isSpecial then " is a special shell builtin" else " is a shell builtin").toList
        else
          match s.locate name with
          | .ok path =>
              if exists? s.machine.tree path then
                .ok ((if known then " is a tracked alias for " else " is ").toList ++ path)
              else .error ": not found".toList
          | .error _ => .error ": not found".toList

def tellTypes (_ : Runner) (arguments : List Octets) : Act Unit := do
  Act.setStatus 0
  for name in arguments do
    match describe (← get) false name with
    | .ok text => Builtin.putLine (name ++ text)
    | .error text =>
        Builtin.putLine (name ++ text)
        Act.setStatus 127

def locateCommand (_ : Runner) (arguments : List Octets) : Act Unit := do
  let (flags, rest) ← Builtin.options "pvV" arguments
  match rest with
  | [] => Act.setStatus 0
  | name :: _ =>
      let s ← get
      if flags.any fun f => f.letter == 'V' then
        match describe s true name with
        | .ok text =>
            Builtin.putLine (name ++ text)
            Act.setStatus 0
        | .error text =>
            Builtin.putLine (name ++ text)
            Act.setStatus 127
      else
        let text := String.ofList name
        Act.setStatus 0
        match s.aliases.lookup name with
        | some value => Builtin.putLine ("alias ".toList ++ name ++ '=' :: Builtin.shownValue value)
        | none =>
            if Script.Token.keywords.contains text || (s.functions.lookup name).isSome ||
                builtinNames.contains text then Builtin.putLine name
            else
              match s.locate name with
              | .ok path =>
                  if exists? s.machine.tree path then Builtin.putLine path
                  else Act.setStatus 127
              | .error _ => Act.setStatus 127

def builtin? (name : Octets) : Option Builtin :=
  match String.ofList name with
  | "." => some (special Builtin.source)
  | ":" => some (special (Builtin.nothing 0))
  | "[" => some (regular (Builtin.test true))
  | "alias" => some ⟨false, true, Builtin.aliasNames⟩
  | "bg" | "fg" => some (regular Builtin.resume)
  | "hash" => some (regular Builtin.remember)
  | "jobs" => some (regular (Builtin.nothing 0))
  | "ulimit" => some (regular Builtin.limit)
  | "break" => some (special (Builtin.leaveLoops false))
  | "cd" | "chdir" => some (regular Builtin.changeFolder)
  | "command" => some (regular locateCommand)
  | "continue" => some (special (Builtin.leaveLoops true))
  | "echo" => some (regular Builtin.echo)
  | "eval" => some (special Builtin.eval)
  | "exec" => some (special execute)
  | "exit" => some (special Builtin.leave)
  | "export" =>
      some ⟨true, true, Builtin.mark "export" (·.exported) fun v => { v with exported := true }⟩
  | "false" => some (regular (Builtin.nothing 1))
  | "getopts" => some (regular Builtin.nextOption)
  | "kill" => some (regular Builtin.kill)
  | "local" => some ⟨true, true, Builtin.hideLocally⟩
  | "printf" => some (regular Builtin.printf)
  | "pwd" => some (regular Builtin.printFolder)
  | "read" => some (regular Builtin.read)
  | "readonly" =>
      some ⟨true, true, Builtin.mark "readonly" (·.readOnly) fun v => { v with readOnly := true }⟩
  | "return" => some (special Builtin.goBack)
  | "set" => some (special Builtin.setOptions)
  | "shift" => some (special Builtin.shift)
  | "test" => some (regular (Builtin.test false))
  | "times" => some (special Builtin.times)
  | "trap" => some (special Builtin.trap)
  | "true" => some (regular (Builtin.nothing 0))
  | "type" => some (regular tellTypes)
  | "umask" => some (regular Builtin.mask)
  | "unalias" => some (regular Builtin.dropAliases)
  | "unset" => some (special Builtin.remove)
  | "wait" => some (regular Builtin.wait)
  | _ => none

inductive Target where
  | builtin (b : Builtin)
  | function (f : Function)
  | program

def State.target (s : State) (skipsFunctions : Bool) (name : Octets) : Target :=
  match (if skipsFunctions then none else s.functions.lookup name), builtin? name with
  | some f, _ => .function f
  | none, some b => .builtin b
  | none, none => .program

def firstArguments (outputs : Outputs) : List Word → Act (List Octets × List Word)
  | [] => return ([], [])
  | w :: more => do
      match ← expandArgument outputs w with
      | [] => firstArguments outputs more
      | found => return (found, more)

def assigningArgument (outputs : Outputs) (w : Word) : Act (List Octets) := do
  match w.assignment? with
  | some (name, value) => return [name ++ '=' :: (← expandText outputs .value value)]
  | none => expandArgument outputs w

def expandOthers (outputs : Outputs) (assigns : Bool) : List Word → Act (List Octets)
  | [] => return []
  | w :: more => do
      let found ← if assigns then assigningArgument outputs w else expandArgument outputs w
      return found ++ (← expandOthers outputs assigns more)

def isPathOption (argument : Octets) : Bool :=
  argument.head? == some '-' && 1 < argument.length && argument.tail.all (· == 'p')

def behindCommand (outputs : Outputs) :
    Nat → Bool → List Octets → List Word → Act (Bool × List Octets × List Word)
  | 0, skips, arguments, words => return (skips, arguments, words)
  | fuel + 1, skips, arguments, words => do
      let s ← get
      let isCommand := arguments.head? == some "command".toList &&
        (skips || (s.functions.lookup "command".toList).isNone)
      if !isCommand then return (skips, arguments, words)
      else
        let (more, words) ←
          if arguments.length = 1 then firstArguments outputs words
          else pure (arguments.tail, words)
        match more with
        | [] => return (skips, arguments, words)
        | option :: rest =>
            if option = ['-', '-'] || isPathOption option then
              let (rest, words) ←
                if rest.isEmpty then firstArguments outputs words else pure (rest, words)
              if rest.isEmpty then return (skips, "command".toList :: more, words)
              else if option = ['-', '-'] then behindCommand outputs fuel true rest words
              else behindCommand outputs fuel true ("command".toList :: rest) words
            else if option.head? = some '-' && 1 < option.length then
              return (skips, "command".toList :: more, words)
            else behindCommand outputs fuel true more words

def runBuiltin (r : Runner) (tested isSpecial : Bool) (b : Builtin) (name : Octets)
    (arguments : List Octets) : Act Unit := do
  let before := (← get).builtin
  modify fun s => { s with builtin := some name }
  Act.thenAlways
    (do
      try
        b.work { r with tested := tested } arguments
        if (← get).lost then
          modify fun s => { s with lost := false }
          Act.complain (name ++ ": I/O error".toList)
          Act.setStatus 1
      catch halt => if halt = .fault && !isSpecial then pure () else throw halt)
    (modify fun s => { s with builtin := before })

def callFunction (r : Runner) (tested : Bool) (f : Function) (arguments : List Octets) :
    Act Unit := do
  let s ← get
  set { s with
    arguments := arguments, loops := 0, functionDepth := s.functionDepth + 1, optionOffset := 0 }
  Act.thenAlways
    (do
      try
        r.run tested f.body
      catch halt => if halt = .back then pure () else throw halt)
    (modify fun t =>
      { t with
        arguments := s.arguments, loops := s.loops, functionDepth := s.functionDepth
        optionOffset := s.optionOffset })

def runProgram (r : Runner) (name : Octets) (arguments : List Octets) : Act Unit := do
  let s ← get
  match s.locate name with
  | .error fault =>
      Act.complain (name ++ ": ".toList ++ fault.reason.toList)
      Act.setStatus 127
  | .ok path =>
      match ← r.program s.environment path name arguments with
      | .ok ending => noteEnding ending
      | .error fault =>
          Act.complain (name ++ ": ".toList ++ fault.reason.toList)
          Act.setStatus fault.status

def assignAll (outputs : Outputs) (passing exports : Bool) : List Word → Act (List Octets)
  | [] => return []
  | w :: more => do
      match w.assignment? with
      | none => assignAll outputs passing exports more
      | some (name, value) =>
          let text ← expandText outputs .value value
          if passing then Act.hide name else pure ()
          Act.assign name text
          if passing || exports then Act.markVariable name fun v => { v with exported := true }
          else pure ()
          return (name ++ '=' :: text) :: (← assignAll outputs passing exports more)

def trace (texts : List Octets) : Act Unit := do
  let s ← get
  if s.has 'x' then
    let sign := (s.value? "PS4".toList).getD "+ ".toList
    Act.write 2 (sign ++ Octets.joined [' '] texts ++ ['\n'])
  else return ()

def runSimple (r : Runner) (tested : Bool) (assigned words : List Word)
    (redirects : List Redirect) : Act Unit := do
  let outputs := outputOf r
  modify fun s => { s with outputStatus := 0 }
  let (found, words) ← firstArguments outputs words
  let fuel := words.length + found.length + 1
  let (skips, found, words) ← behindCommand outputs fuel false found words
  let target := (← get).target skips (found.headD [])
  let assigns :=
    match target with
    | .builtin b => b.assigns
    | _ => false
  let arguments := found ++ (← expandOthers outputs assigns words)
  let isSpecial :=
    match target with
    | .builtin b => b.special && !skips
    | _ => false
  let isExec := arguments.head? == some "exec".toList &&
    (match target with
      | .builtin _ => true
      | _ => false)
  let passing := !arguments.isEmpty && !isSpecial
  let routes ← redirects.mapM (Redirect.route outputs)
  let streams := (← get).streams
  let restore : Act Unit :=
    if isExec then return () else modify fun s => { s with streams := streams }
  Act.thenAlways
    (do
      if !(← attempt (performAll outputs routes)) then
        modify fun s => { s with streams := streams, status := 2 }
        if isSpecial then throw .fault else pure ()
      else
        if passing then modify fun s => { s with locals := [] :: s.locals } else pure ()
        Act.thenAlways
          (do
            let texts ← assignAll outputs passing (isExec && 1 < arguments.length) assigned
            if texts.isEmpty && arguments.isEmpty then pure () else trace (texts ++ arguments)
            match arguments, target with
            | [], _ => modify fun s => { s with status := s.outputStatus }
            | name :: more, .builtin b => runBuiltin r tested isSpecial b name more
            | _ :: more, .function f => callFunction r tested f more
            | name :: more, .program => runProgram r name more)
          (if passing then Act.uncover else return ()))
    restore

def runStages (r : Runner) (tested : Bool) (input : Option Nat) : List Command → Act Ending
  | [] => return .exited 0
  | [last] =>
      r.apart do
        input.forM (Act.lead 0)
        r.run tested last
  | stage :: more => do
      let drain ← Act.addChannel (.drain [])
      let _ ← r.apart do
        input.forM (Act.lead 0)
        Act.lead 1 drain
        r.run tested stage
      let octets := (← get).machine.drained drain
      let next ← Act.addChannel (.source octets)
      runStages r tested (some next) more

def roundLimit : Nat := 100000

def round (act : Act Bool) : Act Bool :=
  try
    act
  catch halt =>
    match halt with
    | .loops 1 again => return again
    | .loops (n + 1) again => throw (.loops n again)
    | other => throw other

def inLoop (act : Act Unit) : Act Unit := do
  modify fun s => { s with loops := s.loops + 1 }
  Act.thenAlways act (modify fun s => { s with loops := s.loops - 1 })

def runOption (r : Runner) (tested : Bool) (c : Option Command) : Act Unit :=
  c.elim (return ()) (r.run tested)

def rounds (r : Runner) (tested inverse : Bool) (test body : Option Command) :
    Nat → Nat → Act Unit
  | 0, _ => do throw (.signal Ending.pipeSignal (← get).process)
  | fuel + 1, last => do
      let further ← round do
        runOption r true test
        if ((← get).status == 0) != inverse then
          runOption r tested body
          return true
        else
          Act.setStatus last
          return false
      if further then rounds r tested inverse test body fuel (← get).status else return ()

def eachRound (r : Runner) (tested : Bool) (name : Octets) (body : Option Command) :
    List Octets → Act Unit
  | [] => return ()
  | value :: more => do
      let further ← round do
        Act.assign name value
        runOption r tested body
        return true
      if further then eachRound r tested name body more else return ()

def caseFor? (outputs : Outputs) (text : Octets) :
    List (List Word × Option Command) → Act (Option (Option Command))
  | [] => return none
  | (patterns, body) :: more => do
      let fits ← patterns.anyM fun w => do
        return Wildcard.fits (Wildcard.read (← expandPattern outputs w)) text
      if fits then return some body else caseFor? outputs text more

def inOrder : Command → List Command
  | .sequence first second => inOrder first ++ [second]
  | c => [c]

def setLine (line : Nat) : Act Unit :=
  modify fun s => { s with line := line }

def runWith (r : Runner) (tested : Bool) (c : Command) : Act Unit := do
  match c with
  | .simple line assigned words redirects =>
      setLine line
      runSimple r tested assigned words redirects
      checkStrict tested
  | .pipe stages =>
      noteEnding (← runStages r tested none stages)
      checkStrict tested
  | .inverted body =>
      r.run true body
      modify fun s => { s with status := if s.status = 0 then 1 else 0 }
  | .both first second =>
      r.run true first
      if (← get).status = 0 then r.run tested second else return ()
  | .either first second =>
      r.run true first
      if (← get).status = 0 then return () else r.run tested second
  | .sequence first second =>
      (inOrder first).forM (r.run tested)
      r.run tested second
  | .background line body =>
      setLine line
      let sink ← Act.addChannel .sink
      let ending ← r.apart do
        Act.lead 0 sink
        r.run false body
      modify fun s =>
        let number := s.machine.processes
        { s with
          status := 0, lastJob := some number, jobs := (number, ending.status) :: s.jobs }
  | .apart line body redirects =>
      setLine line
      let routes ← redirects.mapM (Redirect.route (outputOf r))
      let ending ← r.apart do
        performAll (outputOf r) routes
        runOption r tested body
      noteEnding ending
      checkStrict tested
  | .redirected line body redirects =>
      setLine line
      withRoutes r redirects (runOption r tested body)
  | .branch test yes no =>
      runOption r true test
      if (← get).status = 0 then runOption r tested yes
      else no.elim (Act.setStatus 0) (r.run tested)
  | .loop inverse test body => inLoop (rounds r tested inverse test body roundLimit 0)
  | .each line name words body =>
      setLine line
      let values ← expandArguments (outputOf r) words
      if values.isEmpty then Act.setStatus 0
      else inLoop (eachRound r tested name body values)
  | .choice line word cases =>
      setLine line
      let outputs := outputOf r
      let text ← expandText outputs .single word
      match ← caseFor? outputs text cases with
      | some (some body) => r.run tested body
      | _ => Act.setStatus 0
  | .function line name body =>
      modify fun s =>
        { s with
          functions := (name, ⟨line, body⟩) :: s.functions.filter fun e => e.1 != name
          status := 0 }

def step (r : Runner) (tested : Bool) (c : Command) : Act Unit := do
  runPending r
  if (← get).has 'n' then return ()
  else
    runWith r tested c
    runPending r

end LessonAudit.Program.Shell
