import LessonAudit.Program.Shell.Condition
import LessonAudit.Program.Shell.Runner
set_option autoImplicit false

namespace LessonAudit.Program.Shell

def simplified (path : Octets) : Octets :=
  let pieces := (Octets.pieces '/' path).foldl
    (fun done piece =>
      if piece.isEmpty || piece == ['.'] then done
      else if piece == ['.', '.'] then done.drop 1
      else piece :: done)
    []
  '/' :: Octets.joined ['/'] pieces.reverse

def placeText (place : FilePlace) : Octets :=
  '/' :: Octets.joined ['/'] (place.map Octets.ofBytes)

def State.whereabouts (s : State) : Octets :=
  (s.value? "PWD".toList).getD (placeText s.machine.tree.here)

structure Builtin where
  special : Bool
  assigns : Bool
  work : Runner → List Octets → Act Unit

namespace Builtin

open Act

def putLine (octets : Octets) : Act Unit :=
  write 1 (octets ++ ['\n'])

def number (text : Octets) : Act Nat := do
  let body := text.dropWhile Octets.isSpace
  match Octets.int? (body.reverse.dropWhile Octets.isSpace).reverse with
  | some n =>
      if n < 0 || 0x7fffffff < n then fault ("Illegal number: ".toList ++ text) else return n.toNat
  | none => fault ("Illegal number: ".toList ++ text)

def optionsFrom (known : List Char) :
    Nat → List Flag → List Octets → Act (List Flag × List Octets)
  | 0, done, arguments => return (done.reverse, arguments)
  | fuel + 1, done, arguments =>
      match arguments with
      | ['-', '-'] :: more => return (done.reverse, more)
      | ('-' :: c :: rest) :: more =>
          let behind := (known.dropWhile (· != c)).drop 1
          if c = ':' || !known.contains c then fault ("Illegal option -".toList ++ [c])
          else if behind.head? = some ':' then
            match rest, more with
            | _ :: _, _ => optionsFrom known fuel (⟨c, rest⟩ :: done) more
            | [], value :: more => optionsFrom known fuel (⟨c, value⟩ :: done) more
            | [], [] => fault ("No arg for -".toList ++ [c] ++ " option".toList)
          else
            optionsFrom known fuel (⟨c, []⟩ :: done)
              (if rest.isEmpty then more else ('-' :: rest) :: more)
      | _ => return (done.reverse, arguments)

def options (known : String) (arguments : List Octets) : Act (List Flag × List Octets) :=
  optionsFrom known.toList (Octets.total arguments + arguments.length + 1) [] arguments

def inQuotes : Nat → Octets → Octets
  | 0, _ => []
  | fuel + 1, text =>
      let plain := text.takeWhile (· != '\x27')
      let behind := text.drop plain.length
      let marks := behind.takeWhile (· == '\x27')
      let quoted := '\x27' :: plain ++ ['\x27']
      if marks.isEmpty then quoted
      else
        let rest := behind.drop marks.length
        quoted ++ '"' :: marks ++ ['"'] ++ (if rest.isEmpty then [] else inQuotes fuel rest)

def shownValue (text : Octets) : Octets :=
  inQuotes (text.length + 1) text

def echo (_ : Runner) (arguments : List Octets) : Act Unit := do
  let (breaks, words) :=
    match arguments with
    | ['-', 'n'] :: more => (false, more)
    | _ => (true, arguments)
  let (octets, ended) := Format.resolved .shell (Octets.joined [' '] words)
  write 1 (if breaks && !ended then octets ++ ['\n'] else octets)
  setStatus 0

def printf (_ : Runner) (arguments : List Octets) : Act Unit := do
  let (_, rest) ← options "" arguments
  match rest with
  | [] => fault "usage: printf format [arg ...]".toList
  | format :: more =>
      let filled := Format.fill .shell format more
      filled.complaints.reverse.forM complain
      write 1 filled.shown.reverse
      setStatus (if !filled.failed then 0 else if filled.ended then 2 else 1)

def setExported (name value : Octets) : Act Unit := do
  assign name value
  markVariable name fun v => { v with exported := true }

def changeFolder (_ : Runner) (arguments : List Octets) : Act Unit := do
  let (flags, rest) ← options "LP" arguments
  let s ← get
  let back := rest.head? == some ['-']
  let target :=
    match rest with
    | [] => (s.value? "HOME".toList).getD []
    | ['-'] :: _ => (s.value? "OLDPWD".toList).getD s.whereabouts
    | name :: _ => name
  let before := s.whereabouts
  let full :=
    if target.head? = some '/' then target else before ++ '/' :: target
  let next := if target.isEmpty then before else simplified full
  let tree := s.machine.tree
  let found :=
    match tree.find (pathOf (if flags.any fun f => f.letter == 'P' then full else next)) with
    | .ok (place, .folder) => some place
    | _ => none
  match found with
  | none => fault ("can\x27t cd to ".toList ++ target)
  | some place =>
      set { s with machine := { s.machine with tree := { tree with here := place } } }
      setExported "OLDPWD".toList before
      let next := if flags.any fun f => f.letter == 'P' then placeText place else next
      setExported "PWD".toList next
      if back then putLine next
      setStatus 0

def printFolder (_ : Runner) (arguments : List Octets) : Act Unit := do
  let (flags, _) ← options "LP" arguments
  let s ← get
  putLine (if flags.any fun f => f.letter == 'P' then placeText s.machine.tree.here
    else s.whereabouts)
  setStatus 0

def leave (_ : Runner) (arguments : List Octets) : Act Unit := do
  match arguments with
  | [] =>
      match (← get).leaving with
      | some status => setStatus status
      | none => pure ()
  | code :: _ => setStatus (← number code)
  throw .leave

def goBack (_ : Runner) (arguments : List Octets) : Act Unit := do
  match arguments with
  | [] => pure ()
  | code :: _ => setStatus (← number code)
  throw .back

def leaveLoops (again : Bool) (_ : Runner) (arguments : List Octets) : Act Unit := do
  let count ← arguments.head?.elim (pure 1) number
  if count = 0 then fault ("Illegal number: ".toList ++ arguments.headD [])
  else
    let depth := (← get).loops
    setStatus 0
    if depth = 0 then pure () else throw (.loops (min count depth) again)

def shift (_ : Runner) (arguments : List Octets) : Act Unit := do
  let count ← arguments.head?.elim (pure 1) number
  let s ← get
  if s.arguments.length < count then fault "can\x27t shift that many".toList
  else set { s with arguments := s.arguments.drop count, optionOffset := 0, status := 0 }

def eval (r : Runner) (arguments : List Octets) : Act Unit :=
  r.script r.tested (Octets.joined [' '] arguments)

def source (r : Runner) (arguments : List Octets) : Act Unit := do
  let (_, rest) ← options "" arguments
  match rest with
  | [] => setStatus 0
  | name :: _ =>
      let s ← get
      let tree := s.machine.tree
      let isFile (path : Octets) : Bool :=
        match tree.find (pathOf path) with
        | .ok (_, .file ..) | .ok (_, .bare) | .ok (_, .sink) => true
        | _ => false
      let place :=
        if name.contains '/' then some name
        else (s.folders.map fun folder => folder ++ '/' :: name).find? isFile
      match place with
      | none => fault (name ++ ": not found".toList)
      | some path =>
          match readFile tree path with
          | .error reason =>
              let reason :=
                if reason = WalkFault.manyLinks.reason then reason else "No such file"
              fault ("cannot open ".toList ++ path ++ ": ".toList ++ reason.toList)
          | .ok text =>
              try
                r.script false text
              catch halt => if halt = .back then pure () else throw halt

def assignment (text : Octets) : Act (Octets × Option Octets) := do
  let name := text.takeWhile (· != '=')
  if Script.isName name then
    return (name, if name.length < text.length then some (text.drop (name.length + 1)) else none)
  else fault (name ++ ": bad variable name".toList)

def sortedVariables (s : State) : List Variable :=
  s.bindings.mergeSort fun a b => !Octets.before b.name a.name

def printMarked (word : String) (isMarked : Variable → Bool) : Act Unit := do
  for v in sortedVariables (← get) do
    if isMarked v then
      let value := v.value.elim [] fun x => '=' :: shownValue x
      putLine (word.toList ++ ' ' :: v.name ++ value)
    else pure ()
  setStatus 0

def mark (word : String) (isMarked : Variable → Bool) (change : Variable → Variable)
    (_ : Runner) (arguments : List Octets) : Act Unit := do
  let (_, rest) ← options "p" arguments
  if rest.isEmpty then printMarked word isMarked
  else
    for text in rest do
      let (name, value) ← assignment text
      match value with
      | some value => assign name value
      | none => pure ()
      markVariable name change
    setStatus 0

def hideLocally (_ : Runner) (arguments : List Octets) : Act Unit := do
  if (← get).functionDepth = 0 then fault "not in a function".toList
  else
    for text in arguments do
      let (name, value) ← assignment text
      hide name
      match value with
      | some value => assign name value
      | none => pure ()
    setStatus 0

def remove (_ : Runner) (arguments : List Octets) : Act Unit := do
  let (flags, rest) ← options "vf" arguments
  let functions := flags.getLast?.any fun f => f.letter == 'f'
  for name in rest do
    if functions then
      modify fun s => { s with functions := s.functions.filter fun e => e.1 != name }
    else if Script.isName name then unset name
    else fault (name ++ ": bad variable name".toList)
  setStatus 0

def switch (letter : Char) (given : Bool) : Act Unit :=
  modify fun s =>
    let others := s.letters.filter (· != letter)
    { s with letters := if given then others ++ [letter] else others }

def printOptions (asCommands : Bool) : Act Unit := do
  let s ← get
  if asCommands then
    optionNames.forM fun (name, letter) =>
      putLine ("set ".toList ++ (if s.has letter then ['-'] else ['+']) ++ "o ".toList ++
        name.toList)
  else
    putLine "Current option settings".toList
    optionNames.forM fun (name, letter) =>
      putLine (Octets.padRight 16 name.toList ++ (if s.has letter then "on" else "off").toList)

def switchAll : Nat → List Octets → Act (Option (List Octets))
  | 0, _ => return none
  | fuel + 1, arguments =>
      match arguments with
      | [] => return none
      | ['-', '-'] :: more => return some more
      | ['-'] :: more => do
          switch 'x' false
          switch 'v' false
          return if more.isEmpty then none else some more
      | (sign :: letter :: letters) :: more =>
          if sign ≠ '-' && sign ≠ '+' then return some arguments
          else if letter = 'o' then
            match more with
            | [] => do
                printOptions (sign == '+')
                return none
            | name :: more => do
                match optionNames.find? fun e => e.1.toList == name with
                | some (_, letter) => switch letter (sign == '-')
                | none => fault ("Illegal option ".toList ++ sign :: "o ".toList ++ name)
                switchAll fuel more
          else do
            if (optionNames.any fun e => e.2 == letter) && letter.isAlpha then
              switch letter (sign == '-')
            else fault ("Illegal option ".toList ++ [sign, letter])
            switchAll fuel (if letters.isEmpty then more else (sign :: letters) :: more)
      | _ => return some arguments

def setOptions (_ : Runner) (arguments : List Octets) : Act Unit := do
  if arguments.isEmpty then
    for v in sortedVariables (← get) do
      match v.value with
      | some x => putLine (v.name ++ '=' :: shownValue x)
      | none => pure ()
  else
    match ← switchAll (Octets.total arguments + arguments.length + 1) arguments with
    | some rest => modify fun s => { s with arguments := rest, optionOffset := 0 }
    | none => pure ()
  setStatus 0

def readLine (raw : Bool) : List Run → Octets → List Run × Option Octets
  | done, [] => (done, none)
  | done, '\\' :: rest =>
      if raw then readLine raw (.ofOctets ['\\'] false .words :: done) rest
      else
        match rest with
        | [] => (done, none)
        | '\n' :: rest => readLine raw done rest
        | c :: rest => readLine raw (.ofOctets [c] true .whole :: done) rest
  | done, c :: rest =>
      if c = '\n' then (done, some rest)
      else if c = '\x00' then readLine raw done rest
      else
        match done with
        | ⟨bits, .words⟩ :: more =>
            readLine raw (⟨.letter ⟨c, false⟩ :: bits, .words⟩ :: more) rest
        | _ => readLine raw (.ofOctets [c] false .words :: done) rest

def assignFields : List Octets → List Octets → Act Unit
  | [], _ => return ()
  | name :: names, fields => do
      if Script.isName name then assign name (fields.headD [])
      else fault (name ++ ": bad variable name".toList)
      assignFields names fields.tail

def read (_ : Runner) (arguments : List Octets) : Act Unit := do
  let (flags, names) ← options "p:r" arguments
  if names.isEmpty then fault "arg count".toList
  else
    let (runs, rest) := readLine (flags.any fun f => f.letter == 'r') [] (← contents 0)
    leaveInput (rest.getD [])
    let runs := runs.reverse.map fun run =>
      if run.cut = .words then { run with bits := run.bits.reverse } else run
    let fields := (Fields.ofRuns (← get).cutters (some names.length) runs).map fun bits =>
      octetsOf (bits.filterMap Bit.letter?)
    assignFields names fields
    setStatus (if rest.isSome then 0 else 1)

def nextOption (_ : Runner) (arguments : List Octets) : Act Unit := do
  match arguments with
  | known :: name :: given =>
      let s ← get
      let given := if given.isEmpty then s.arguments else given
      let index := max 1 (((s.value? "OPTIND".toList).bind Octets.int?).getD 1).toNat
      let quiet := known.head? == some ':'
      let finish (c : Char) (index offset status : Nat) : Act Unit := do
        assign "OPTIND".toList (Octets.ofNat index)
        if Script.isName name then assign name [c]
        else fault (name ++ ": bad variable name".toList)
        modify fun s => { s with optionOffset := offset, status := status }
      let word := given.getD (index - 1) []
      let inner :=
        if s.optionOffset = 0 then [] else (given.getD (index - 2) []).drop s.optionOffset
      let (letters, index, offset) :=
        if inner.isEmpty then (word.drop 1, index + 1, 1) else (inner, index, s.optionOffset)
      if inner.isEmpty && word = ['-', '-'] then finish '?' index 0 1
      else if inner.isEmpty && (word.head? != some '-' || word.length < 2) then
        finish '?' (index - 1) 0 1
      else
        let c := letters.headD '?'
        let rest := letters.drop 1
        let behind := (known.dropWhile (· != c)).drop 1
        let nextOffset := if rest.isEmpty then 0 else offset + 1
        if c = ':' || !known.contains c then
          if quiet then assign "OPTARG".toList [c]
          else
            write 2 ("Illegal option -".toList ++ [c, '\n'])
            unset "OPTARG".toList
          finish '?' index nextOffset 0
        else if behind.head? = some ':' then
          if !rest.isEmpty then
            assign "OPTARG".toList rest
            finish c index 0 0
          else
            match given[index - 1]? with
            | some value =>
                assign "OPTARG".toList value
                finish c (index + 1) 0 0
            | none =>
                if quiet then
                  assign "OPTARG".toList [c]
                  finish ':' index 0 0
                else
                  write 2 ("No arg for -".toList ++ [c] ++ " option\n".toList)
                  unset "OPTARG".toList
                  finish '?' index 0 0
        else
          assign "OPTARG".toList []
          finish c index nextOffset 0
  | _ => fault "Usage: getopts optstring var [arg...]".toList

def test (bracket : Bool) (_ : Runner) (arguments : List Octets) : Act Unit := do
  match Condition.holds (← get).machine.tree bracket arguments with
  | .ok holds => setStatus (if holds then 0 else 1)
  | .error text => fault text

def signalNumber? (name : Octets) : Option Nat :=
  if Octets.isDecimal name then
    let n := Octets.value name
    if n < 65 then some n else none
  else
    let text := String.ofList (name.map Char.toUpper)
    (Ending.signalNames.findIdx? fun known => known == text).map fun n => n + 1

def trapNumber? (name : Octets) : Option Nat :=
  if name.map Char.toUpper == "EXIT".toList then some 0 else signalNumber? name

def trapName (number : Nat) : Octets :=
  if number = 0 then "EXIT".toList
  else ((Ending.signalName? number).getD (toString number)).toList

def setTrap (number : Nat) (action : Option Octets) : Act Unit :=
  modify fun s =>
    let others := s.traps.filter fun e => e.1 != number
    { s with traps := match action with
        | some text => (number, text) :: others
        | none => others }

def trap (_ : Runner) (arguments : List Octets) : Act Unit := do
  let (_, rest) ← options "" arguments
  let set (action : Option Octets) (names : List Octets) : Act Unit := do
    setStatus 0
    for name in names do
      match trapNumber? name with
      | some number => setTrap number action
      | none =>
          write 2 ("trap: ".toList ++ name ++ ": bad trap\n".toList)
          setStatus 1
  match rest with
  | [] =>
      let found := (← get).traps.mergeSort fun a b => decide (a.1 ≤ b.1)
      found.forM fun (number, action) =>
        putLine ("trap -- ".toList ++ shownValue action ++ ' ' :: trapName number)
      setStatus 0
  | [name] => set none [name]
  | action :: names =>
      if action = ['-'] then set none names
      else if Octets.isDecimal action then set none rest
      else set (some action) names

def send (signal : Nat) (process : Nat) : Act Bool := do
  let s ← get
  if s.jobs.any fun job => job.1 == process then return true
  else if !s.family.contains process then
    complain "No such process\n".toList
    return false
  else if signal = 0 then return true
  else
    match s.traps.lookup signal with
    | some action =>
        if process = s.process && !action.isEmpty then
          set { s with pending := s.pending ++ [signal] }
          return true
        else if action.isEmpty then return true
        else throw (.signal signal process)
    | none =>
        if (Ending.signalName? signal).any Ending.quietSignals.contains then return true
        else throw (.signal signal process)

def listSignals (arguments : List Octets) : Act Unit := do
  match arguments with
  | [] =>
      putLine ['0']
      Ending.signalNames.forM fun name => putLine name.toList
  | text :: _ =>
      let n ← number text
      match Ending.signalName? (if 128 < n then n - 128 else n) with
      | some name => putLine name.toList
      | none => fault ("invalid signal number or exit status: ".toList ++ text)
  setStatus 0

def kill (_ : Runner) (arguments : List Octets) : Act Unit := do
  let usage : Act Unit :=
    fault ("Usage: kill [-s sigspec | -signum | -sigspec] [pid | job]... or\nkill -l " ++
      "[exitstatus]").toList
  let given : Option Nat :=
    match arguments with
    | ('-' :: name) :: _ => signalNumber? name
    | _ => none
  let (flags, rest) ←
    match given, arguments with
    | some _, _ :: rest => pure (([] : List Flag), rest)
    | _, _ => options "ls:" arguments
  let list := flags.any fun f => f.letter == 'l'
  let signal ←
    match given, flags.getLast?.filter fun f => f.letter == 's' with
    | some n, _ => pure n
    | none, some f =>
        match signalNumber? f.value with
        | some n => pure n
        | none => fault ("invalid signal number or name: ".toList ++ f.value)
    | none, none => pure 15
  if list then listSignals rest
  else if rest.isEmpty then usage
  else
    setStatus 0
    for text in rest do
      let fine ←
        match text with
        | '%' :: _ => fault ("No such job: ".toList ++ text)
        | _ => send signal (← number text)
      if !fine then setStatus 1 else pure ()

def aliasNames (_ : Runner) (arguments : List Octets) : Act Unit := do
  setStatus 0
  let shown (name value : Octets) : Act Unit := putLine (name ++ '=' :: shownValue value)
  if arguments.isEmpty then
    (← get).aliases.forM fun (name, value) => shown name value
  else
    for text in arguments do
      let name := text.takeWhile (· != '=')
      if name.length < text.length then
        modify fun s =>
          { s with
            aliases := (name, text.drop (name.length + 1)) ::
              s.aliases.filter fun e => e.1 != name }
      else
        match (← get).aliases.lookup name with
        | some value => shown name value
        | none =>
            write 2 ("alias: ".toList ++ name ++ " not found\n".toList)
            setStatus 1

def dropAliases (_ : Runner) (arguments : List Octets) : Act Unit := do
  let (flags, rest) ← options "a" arguments
  setStatus 0
  if !flags.isEmpty then modify fun s => { s with aliases := [] }
  else
    for name in rest do
      let s ← get
      if (s.aliases.lookup name).isNone then
        write 2 ("unalias: ".toList ++ name ++ " not found\n".toList)
        setStatus 1
      else set { s with aliases := s.aliases.filter fun e => e.1 != name }

def wait (_ : Runner) (arguments : List Octets) : Act Unit := do
  setStatus 0
  for text in arguments do
    match text with
    | '%' :: _ => fault ("No such job: ".toList ++ text)
    | _ =>
        let n ← number text
        setStatus (((← get).jobs.lookup n).getD 127)

def resume (_ : Runner) (_ : List Octets) : Act Unit :=
  fault "No current job".toList

def remember (_ : Runner) (arguments : List Octets) : Act Unit := do
  let (_, rest) ← options "rv" arguments
  setStatus 0
  for name in rest do
    let s ← get
    if (s.locate name).toOption.isNone then
      complain (name ++ ": not found".toList)
      setStatus 1

def times (_ : Runner) (_ : List Octets) : Act Unit := do
  putLine "0m0.000000s 0m0.000000s".toList
  putLine "0m0.000000s 0m0.000000s".toList
  setStatus 0

def limit (_ : Runner) (arguments : List Octets) : Act Unit := do
  let (_, rest) ← options "HSatfdscmlpnvwr" arguments
  match rest with
  | [] => putLine "unlimited".toList
  | [value] =>
      if value.all Char.isDigit || value = "unlimited".toList then pure ()
      else fault "bad number".toList
  | _ => fault "too many arguments".toList
  setStatus 0

def rightsText (bits : Nat) : Octets :=
  (if bits / 4 % 2 = 1 then ['r'] else []) ++ (if bits / 2 % 2 = 1 then ['w'] else []) ++
    (if bits % 2 = 1 then ['x'] else [])

def maskText (mask : Nat) : Octets :=
  "u=".toList ++ rightsText (7 - mask / 64 % 8) ++ ",g=".toList ++
    rightsText (7 - mask / 8 % 8) ++ ",o=".toList ++ rightsText (7 - mask % 8)

def changedMask (mask : Nat) (clause : Octets) : Option Nat :=
  let users := clause.takeWhile fun c => "ugoa".toList.contains c
  match clause.drop users.length with
  | sign :: letters =>
      if "+-=".toList.contains sign && letters.all fun c => "rwxXst".toList.contains c then
        let bits :=
          (if letters.contains 'r' then 4 else 0) + (if letters.contains 'w' then 2 else 0) +
            (if letters.contains 'x' || letters.contains 'X' then 1 else 0)
        let next (user : Char) (old : Nat) : Nat :=
          if !(users.isEmpty || users.contains 'a' || users.contains user) then old
          else
            match sign with
            | '+' => old &&& (7 - bits)
            | '-' => old ||| bits
            | _ => 7 - bits
        some (next 'u' (mask / 64 % 8) * 64 + next 'g' (mask / 8 % 8) * 8 + next 'o' (mask % 8))
      else none
  | [] => none

def mask (_ : Runner) (arguments : List Octets) : Act Unit := do
  let (flags, rest) ← options "S" arguments
  let s ← get
  match rest with
  | [] =>
      putLine (if flags.isEmpty then Octets.padLeft '0' 4 (Nat.toDigits 8 s.mask)
        else maskText s.mask)
      setStatus 0
  | mode :: _ =>
      if mode.head?.any Char.isDigit then
        if mode.all Octets.isOctal then
          set { s with mask := Octets.valueIn 8 mode % 512, status := 0 }
        else fault ("Illegal number: ".toList ++ mode)
      else
        let found := (Octets.pieces ',' mode).foldl
          (fun mask clause => mask.bind fun mask => changedMask mask clause) (some s.mask)
        match found with
        | some mask => set { s with mask := mask, status := 0 }
        | none => fault ("Illegal mode: ".toList ++ mode)

def nothing (status : Nat) (_ : Runner) (_ : List Octets) : Act Unit :=
  setStatus status

end Builtin
end LessonAudit.Program.Shell
