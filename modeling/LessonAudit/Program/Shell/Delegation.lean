import LessonAudit.Program.Shell.Builtin
import LessonAudit.Program.Tool.Named
set_option autoImplicit false

namespace LessonAudit.Program.Shell

def runNamed (r : Runner) (environment : Environment) (name : Octets) (arguments : List Octets) :
    Act (Except LaunchFault Ending) := do
  let folders := Octets.pieces ':' ((environment.lookup "PATH".toList).getD "/usr/bin:/bin".toList)
  let tree := (← get).machine.tree
  let path : Except LaunchFault Octets :=
    if name.contains '/' then .ok name else searchIn tree name folders false
  match path with
  | .error fault => return .error fault
  | .ok path => r.program environment path name arguments

def remark (name text : Octets) : Act Unit :=
  Act.write 2 (name ++ ": ".toList ++ text ++ ['\n'])

def splitWords : Nat → Option Octets → Octets → List Octets
  | 0, current, _ => current.toList.map List.reverse
  | _ + 1, current, [] => current.toList.map List.reverse
  | fuel + 1, current, c :: rest =>
      if Octets.isSpace c then
        match current with
        | some word => word.reverse :: splitWords fuel none rest
        | none => splitWords fuel none rest
      else if c = '\x27' || c = '"' then
        let inner := rest.takeWhile (· != c)
        splitWords fuel (some (inner.reverse ++ current.getD [])) (rest.drop (inner.length + 1))
      else if c = '\\' then
        splitWords fuel (some (rest.headD '\\' :: current.getD [])) (rest.drop 1)
      else splitWords fuel (some (c :: current.getD [])) rest

def unquoted : Nat → Octets → Octets
  | 0, cs => cs
  | _ + 1, [] => []
  | fuel + 1, c :: rest =>
      if c = '\x27' || c = '"' then
        let inner := rest.takeWhile (· != c)
        inner ++ unquoted fuel (rest.drop (inner.length + 1))
      else if c = '\\' then rest.take 1 ++ unquoted fuel (rest.drop 1)
      else c :: unquoted fuel rest

def openQuote? : Nat → Octets → Option String
  | 0, _ => none
  | _ + 1, [] => none
  | fuel + 1, c :: rest =>
      if c = '\x27' || c = '"' then
        let inner := rest.takeWhile fun e => e != c && e != '\n'
        if (rest.drop inner.length).head? = some c then
          openQuote? fuel (rest.drop (inner.length + 1))
        else some (if c = '"' then "double" else "single")
      else if c = '\\' then openQuote? fuel (rest.drop 1)
      else openQuote? fuel rest

def inputWords (fuel : Nat) (input : Octets) : List Octets :=
  let words := splitWords fuel none input
  if (openQuote? fuel input).isSome then words.dropLast else words

def groups (size : Nat) : Nat → List Octets → List (List Octets)
  | 0, _ => []
  | fuel + 1, arguments =>
      if arguments.isEmpty then []
      else arguments.take size :: groups size fuel (arguments.drop size)

def replaced (mark text : Octets) : Nat → Octets → Octets
  | 0, octets => octets
  | _ + 1, [] => []
  | fuel + 1, c :: rest =>
      if mark.isPrefixOf (c :: rest) && !mark.isEmpty then
        text ++ replaced mark text fuel ((c :: rest).drop mark.length)
      else c :: replaced mark text fuel rest

def argumentsOptions : Options := ⟨"0rtpx", "nILdP", [("null", '0'), ("no-run-if-empty", 'r'),
  ("verbose", 't'), ("max-args", 'n'), ("replace", 'I'), ("delimiter", 'd')], true⟩

def runArguments (r : Runner) (caller : Octets) (environment : Environment)
    (arguments : List Octets) : Act Ending := do
  match argumentsOptions.read arguments with
  | .error text =>
      remark caller text
      Act.write 2 (Work.hint caller ++ ['\n'])
      return .exited 1
  | .ok (flags, others) =>
      let input ← Act.contents 0
      Act.leaveInput []
      let sink ← Act.addChannel .sink
      let mark := Flag.last? flags 'I'
      let words :=
        if Flag.given flags '0' then Octets.linesBy '\x00' input
        else
          match Flag.last? flags 'd' with
          | some d => Octets.linesBy ((Format.resolved .tool d).1.headD '\n') input
          | none =>
              if mark.isSome then
                let lines := (Octets.lines input).map fun line => line.dropWhile Octets.isBlank
                (lines.filter fun line => !line.isEmpty).map fun line =>
                  unquoted (line.length + 1) line
              else inputWords (input.length + 1) input
      let isOpen := mark.isNone && !Flag.given flags '0' && !Flag.given flags 'd'
      let fault := if isOpen then openQuote? (input.length + 1) input else none
      let command := if others.isEmpty then ["echo".toList] else others
      let runs : List (List Octets) :=
        match mark with
        | some mark =>
            words.map fun word => command.map fun a => replaced mark word (a.length + 1) a
        | none =>
            match (Flag.last? flags 'n' <|> Flag.last? flags 'L').bind Octets.int? with
            | some n => (groups n.toNat (words.length + 1) words).map fun group => command ++ group
            | none =>
                if words.isEmpty then (if Flag.given flags 'r' then [] else [command])
                else [command ++ words]
      let mut status := 0
      for words in runs do
        if status = 126 || status = 127 then pure ()
        else
          if Flag.given flags 't' then Act.write 2 (Octets.joined [' '] words ++ ['\n'])
          let name := words.headD []
          let streams := (← get).streams
          Act.lead 0 sink
          let result ← runNamed r environment name words.tail
          modify fun s => { s with streams := streams }
          match result with
          | .ok (.exited 0) => pure ()
          | .ok (.exited 255) =>
              remark caller (name ++ ": exited with status 255; aborting".toList)
              return .exited 124
          | .ok (.exited _) => status := 123
          | .ok (.killed n) =>
              remark caller (name ++ ": terminated by signal ".toList ++ Octets.ofNat n)
              return .exited 125
          | .error fault =>
              remark caller (name ++ ": ".toList ++ fault.toolReason.toList)
              status := fault.status
      match fault with
      | some kind =>
          remark caller (("unmatched " ++ kind ++ " quote; by default quotes are special to " ++
            "xargs unless you use the -0 option").toList)
          return .exited 1
      | none => return .exited status

def refuse (caller text : Octets) (hinted : Bool) (status : Nat) : Act Ending := do
  remark caller text
  if hinted then Act.write 2 (Work.hint caller ++ ['\n'])
  return .exited status

def runBehind (r : Runner) (caller : Octets) (words : String) (environment : Environment)
    (command : List Octets) : Act Ending := do
  let program := command.headD []
  match ← runNamed r environment program command.tail with
  | .ok ending => return ending
  | .error fault =>
      remark caller (words.toList ++ Octets.quoted program ++ ": ".toList ++
        fault.toolReason.toList)
      return .exited fault.status

def runNice (r : Runner) (caller : Octets) (environment : Environment)
    (arguments : List Octets) : Act Ending := do
  let isPlain (a : Octets) : Bool :=
    match a with
    | '-' :: c :: digits =>
        (c.isDigit || ((c == '-' || c == '+') && !digits.isEmpty)) && digits.all Char.isDigit
    | _ => false
  let plain := arguments.takeWhile isPlain
  let o : Options := ⟨"", "n", [("adjustment", 'n')], true⟩
  match o.read (arguments.drop plain.length) with
  | .error text => refuse caller text true 125
  | .ok (flags, command) =>
      let isBad (f : Flag) : Bool := (Octets.int? f.value).isNone
      match flags.find? isBad with
      | some f => refuse caller ("invalid adjustment ".toList ++ Octets.quoted f.value) false 125
      | none =>
          if !command.isEmpty then runBehind r caller "" environment command
          else if plain.isEmpty && flags.isEmpty then
            Act.write 1 ['0', '\n']
            return .exited 0
          else refuse caller "a command must be given with an adjustment".toList true 125

def runNohup (r : Runner) (caller : Octets) (environment : Environment)
    (arguments : List Octets) : Act Ending :=
  match (⟨"", "", [], true⟩ : Options).read arguments with
  | .error text => refuse caller text true 125
  | .ok (_, []) => refuse caller "missing operand".toList true 125
  | .ok (_, command) => runBehind r caller "failed to run command " environment command

def runSetsid (r : Runner) (caller : Octets) (environment : Environment)
    (arguments : List Octets) : Act Ending := do
  let o : Options := ⟨"cfw", "", [("ctty", 'c'), ("fork", 'f'), ("wait", 'w')], true⟩
  let own := "setsid".toList
  match o.read arguments with
  | .error text =>
      remark caller text
      Act.write 2 (Work.hint own ++ ['\n'])
      return .exited 1
  | .ok (_, []) => refuse own "no command specified".toList true 1
  | .ok (_, program :: more) =>
      match ← runNamed r environment program more with
      | .ok ending => return ending
      | .error fault =>
          refuse own ("failed to execute ".toList ++ program ++ ": ".toList ++
            fault.toolReason.toList) false fault.status

def isBuffering (text : Octets) : Bool :=
  let digits := text.takeWhile Char.isDigit
  text == ['L'] || (!digits.isEmpty &&
    ["", "K", "k", "KB", "kB", "M", "MB", "G", "GB", "b"].contains
      (String.ofList (text.drop digits.length)))

def runStdbuf (r : Runner) (caller : Octets) (environment : Environment)
    (arguments : List Octets) : Act Ending :=
  let o : Options := ⟨"", "ioe", [("input", 'i'), ("output", 'o'), ("error", 'e')], true⟩
  match o.read arguments with
  | .error text => refuse caller text true 125
  | .ok (flags, command) =>
      match flags.find? fun f => (f.letter == 'i' && f.value == ['L']) || !isBuffering f.value with
      | some f =>
          if f.value = ['L'] then
            refuse caller "line buffering stdin is meaningless".toList true 125
          else refuse caller ("invalid mode ".toList ++ Octets.quoted f.value) false 125
      | none =>
          if command.isEmpty then refuse caller "missing operand".toList true 125
          else if flags.isEmpty then
            refuse caller "you must specify a buffering mode option".toList true 125
          else runBehind r caller "failed to run command " environment command

def anySignal? (name : Octets) : Option Nat :=
  let text := name.map Char.toUpper
  Builtin.signalNumber? (if "SIG".toList.isPrefixOf text then text.drop 3 else text)

def runTimeout (r : Runner) (caller : Octets) (environment : Environment)
    (arguments : List Octets) : Act Ending := do
  let o : Options := ⟨"v", "ks", [("foreground", 'F'), ("preserve-status", 'P'),
    ("verbose", 'v'), ("kill-after", 'k'), ("signal", 's')], true⟩
  let badTime (text : Octets) : Act Ending :=
    refuse caller ("invalid time interval ".toList ++ Octets.quoted text) true 125
  let isBad (f : Flag) : Bool :=
    (f.letter == 'k' && !Tool.isTime f.value) ||
      (f.letter == 's' && (anySignal? f.value).isNone)
  match o.read arguments with
  | .error text => refuse caller text true 125
  | .ok (flags, rest) =>
      match flags.find? isBad, rest with
      | some ⟨'k', text⟩, _ => badTime text
      | some ⟨_, text⟩, _ =>
          refuse caller (Octets.quoted text ++ ": invalid signal".toList) true 125
      | none, [] | none, [_] =>
          Act.write 2 (Work.hint caller ++ ['\n'])
          return .exited 125
      | none, time :: command =>
          if Tool.isTime time then
            runBehind r caller "failed to run command " environment command
          else badTime time

end LessonAudit.Program.Shell
