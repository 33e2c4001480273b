import LessonAudit.Program.Rule.Run
import LessonAudit.Program.Shell.Audit
import LessonAudit.Program.Shell.Find
import LessonAudit.Program.Shell.Run
import LessonAudit.Program.Shell.Surroundings
set_option autoImplicit false

namespace LessonAudit.Program.Shell

def isFileStream (s : State) (stream : Nat) : Bool :=
  match (s.streams.lookup stream).bind fun number => s.machine.channels[number]? with
  | some (.file ..) => true
  | _ => false

def inputFault? (s : State) : Option String :=
  match s.streams.lookup 0 with
  | none => some "Bad file descriptor"
  | some number =>
      match s.machine.channels[number]? with
      | some (.barred reason) => some reason
      | _ => none

def outputFault? (s : State) : Option String :=
  match s.streams.lookup 1 with
  | none => some "Bad file descriptor"
  | some number =>
      match s.machine.channels[number]? with
      | some .full => some "No space left on device"
      | _ => none

def runTool (environment : Environment) (name : Octets) (work : Work Unit) : Act Ending := do
  let s ← get
  let input ← Act.contents 0
  let (_, d) :=
    work.run ⟨name, s.machine.tree, environment, input, isFileStream s 0, inputFault? s, [], 0⟩
  modify fun s => { s with machine := { s.machine with tree := d.tree } }
  Act.leaveInput d.input
  d.written.reverse.forM fun (stream, octets) =>
    Act.write (match stream with
      | .out => 1
      | .err => 2) octets
  modify fun t => { t with lost := s.lost }
  let wrote := d.written.any fun e => e.1 == .out && !e.2.isEmpty
  match outputFault? s with
  | some reason =>
      if wrote then
        Act.write 2 (name ++ ": write error: ".toList ++ reason.toList ++ ['\n'])
        return .exited (if d.status = 0 then 1 else d.status)
      else return .exited d.status
  | none => return .exited d.status

def usualPath : Octets :=
  "/usr/local/sbin:/usr/local/bin:/usr/sbin:/usr/bin:/sbin:/bin".toList

def State.fresh (s : State) (environment : Environment) (name : Octets) : State :=
  let held (exported : Bool) (e : Octets × Octets) : Variable := ⟨e.1, some e.2, exported, false⟩
  let own : Environment :=
    [("IFS".toList, " \t\n".toList), ("OPTIND".toList, ['1']), ("PS4".toList, "+ ".toList),
      ("PPID".toList, Octets.ofNat (s.family.tail.headD 1))]
  let given := environment.filter fun e => (own.lookup e.1).isNone
  let path := "PATH".toList
  let own := if (given.lookup path).isSome then own else (path, usualPath) :: own
  { s with
    name := name
    arguments := []
    bindings := (given.map (held true)).reverse ++ own.map (held false)
    functions := []
    aliases := []
    letters := []
    status := 0
    line := 0
    builtin := none
    loops := 0
    functionDepth := 0
    texts := #[]
    traps := []
    pending := []
    leaving := none
    jobs := []
    lastJob := none
    firstProcess := s.process
    locals := []
    optionOffset := 0 }

inductive Job where
  | text
  | other
deriving DecidableEq, Repr

def shellOptions : Nat → Job → List Octets → Act (Job × List Octets)
  | 0, job, arguments => return (job, arguments)
  | fuel + 1, job, arguments =>
      match arguments with
      | ['-'] :: more | ['-', '-'] :: more => return (job, more)
      | (sign :: letter :: letters) :: more => do
          if sign ≠ '-' && sign ≠ '+' then return (job, arguments)
          else
            let rest := if letters.isEmpty then more else (sign :: letters) :: more
            if letter = 'c' then shellOptions fuel .text rest
            else if letter = 'o' then
              match more with
              | name :: more => do
                  match optionNames.find? fun e => e.1.toList == name with
                  | some (_, letter) => Builtin.switch letter (sign == '-')
                  | none => Act.fault ("Illegal option ".toList ++ sign :: "o ".toList ++ name)
                  shellOptions fuel job more
              | [] => return (job, [])
            else if letter = 'l' then shellOptions fuel job rest
            else
              if (optionNames.any fun e => e.2 == letter) && letter.isAlpha then
                Builtin.switch letter (sign == '-')
              else Act.fault ("Illegal option ".toList ++ [sign, letter])
              shellOptions fuel job rest
      | _ => return (job, arguments)

def shell (r : Runner) (environment : Environment) (name : Octets) (arguments : List Octets) :
    Act Unit := do
  modify fun s => s.fresh environment name
  let folder := placeText (← get).machine.tree.here
  Builtin.setExported "PWD".toList (((← get).value? "PWD".toList).getD folder)
  let fuel := Octets.total arguments + arguments.length + 1
  let (job, rest) ← shellOptions fuel .other arguments
  let run (arguments : List Octets) (text : Octets) : Act Unit := do
    modify fun s => { s with arguments := arguments }
    r.script false text
  match job, rest with
  | .text, [] => Act.fault "-c requires an argument".toList
  | .text, text :: more =>
      modify fun s => { s with name := more.headD name }
      run more.tail text
  | .other, _ =>
      if rest.isEmpty || (← get).has 's' then
        let text ← Act.contents 0
        Act.leaveInput []
        run rest text
      else
        let file := rest.headD []
        match readFile (← get).machine.tree file with
        | .error reason =>
            let reason :=
              if reason = WalkFault.manyLinks.reason then reason else "No such file"
            Act.fault ("cannot open ".toList ++ file ++ ": ".toList ++ reason.toList)
        | .ok text =>
            modify fun s => { s with name := file }
            run rest.tail text

def interpreter? (octets : Octets) : Option (Octets × List Octets) :=
  match octets with
  | '#' :: '!' :: rest =>
      let line := (rest.takeWhile (· != '\n')).dropWhile Octets.isBlank
      let program := line.takeWhile fun c => !Octets.isBlank c
      let argument := (line.drop program.length).dropWhile Octets.isBlank
      let argument := (argument.reverse.dropWhile Octets.isBlank).reverse
      if program.isEmpty then none
      else some (program, if argument.isEmpty then [] else [argument])
  | _ => none

def runToolNamed (r : Runner) (environment : Environment) (tool : String) (name : Octets)
    (arguments : List Octets) : Act Ending :=
  let named (name : Octets) : Act Ending :=
    match Tool.named? tool with
    | some work => runTool environment name (work arguments)
    | none => return .exited 127
  match tool with
  | "sh" | "dash" | "bash" => r.apart (shell r environment name arguments)
  | "env" => Surroundings.run r name environment arguments
  | "awk" | "mawk" =>
      let command (text : Octets) : Act Ending :=
        r.apart (shell r environment "sh".toList ["-c".toList, text])
      Rule.run ⟨Tool.lastPiece name, environment, command⟩ arguments
  | "find" => Find.run r name environment arguments
  | "lesson-check" => Audit.run r environment arguments
  | "xargs" => runArguments r name environment arguments
  | "nice" => runNice r name environment arguments
  | "nohup" => runNohup r name environment arguments
  | "setsid" => runSetsid r name environment arguments
  | "stdbuf" => runStdbuf r name environment arguments
  | "timeout" => runTimeout r name environment arguments
  | "egrep" | "fgrep" => named "grep".toList
  | _ => named name
def runPath (r : Runner) (environment : Environment) :
    Nat → Octets → Octets → List Octets → Act (Except LaunchFault Ending)
  | scripts, path, name, arguments => do
      match (← get).machine.tree.find (pathOf path) with
      | .error fault => return .error (.walk fault)
      | .ok (_, .tool tool) => return .ok (← runToolNamed r environment tool name arguments)
      | .ok (_, .file bytes true) =>
          match interpreter? (Octets.ofBytes bytes), scripts with
          | none, _ => return .error .format
          | some _, 0 => return .error (.walk .manyLinks)
          | some (program, options), scripts + 1 =>
              runPath r environment scripts program program (options ++ path :: arguments)
      | .ok _ => return .error .denied

def runForShell (r : Runner) (environment : Environment) (path name : Octets)
    (arguments : List Octets) : Act (Except LaunchFault Ending) := do
  match ← runPath r environment 4 path name arguments with
  | .error .format =>
      return .ok (← r.apart (shell r environment "/bin/sh".toList (path :: arguments)))
  | result => return result

def Runner.exhausted : Runner where
  run _ _ := throw .leave
  apart _ := return .exited 2
  program _ _ _ _ := return .error .format
  direct _ _ _ _ := return .error .format
  tested := false

def Runner.next (r : Runner) : Runner where
  run := step r
  apart := inProcess r
  program := runForShell r
  direct environment := runPath r environment 4
  tested := false

def Runner.level : Nat → Runner
  | 0 => .exhausted
  | n + 1 => (level n).next

def levelLimit : Nat := 3000

def runner : Runner := .level levelLimit

end LessonAudit.Program.Shell
