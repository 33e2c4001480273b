import LessonAudit.Program.Shell.Delegation
set_option autoImplicit false

namespace LessonAudit.Program.Shell.Surroundings

def escapes : List (Char × Char) :=
  [('f', '\x0c'), ('n', '\n'), ('r', '\r'), ('t', '\t'), ('v', '\x0b'), ('"', '"'), ('#', '#'),
    ('$', '$'), ('\x27', '\x27'), ('\\', '\\')]

def reference? (text : Octets) : Option (Octets × Nat) :=
  match text with
  | '\x7b' :: rest =>
      let name := rest.takeWhile fun c => c.isAlphanum || c == '_'
      if name.isEmpty || name.head?.any Char.isDigit then none
      else if (rest.drop name.length).head? = some '\x7d' then some (name, name.length + 2)
      else none
  | _ => none

def words (environment : Environment) :
    Nat → Option Octets → Option Char → Octets → Except Octets (List Octets)
  | 0, current, _, _ => .ok (current.toList.map List.reverse)
  | _ + 1, current, quote, [] =>
      if quote.isSome then .error "no terminating quote in -S string".toList
      else .ok (current.toList.map List.reverse)
  | fuel + 1, current, quote, c :: rest =>
      let add (octets : Octets) (rest : Octets) : Except Octets (List Octets) :=
        words environment fuel (some (octets.reverse ++ current.getD [])) quote rest
      let next (rest : Octets) : Except Octets (List Octets) := do
        let more ← words environment fuel none none rest
        return current.toList.map List.reverse ++ more
      let single := quote == some '\x27'
      if quote = some c then words environment fuel current none rest
      else if (c = '\x27' || c = '"') && quote.isNone then
        words environment fuel (some (current.getD [])) (some c) rest
      else if quote.isNone && Octets.isSpace c then next rest
      else if quote.isNone && current.isNone && c = '#' then .ok []
      else if c = '\\' then
        match rest with
        | [] => .error "invalid backslash at end of string in -S".toList
        | d :: rest =>
            if single then add (if d = '\\' || d = '\x27' then [d] else ['\\', d]) rest
            else if d = '_' then if quote.isSome then add [' '] rest else next rest
            else if d = 'c' then
              if quote.isSome then
                .error "\x27\\c\x27 must not appear in double-quoted -S string".toList
              else .ok (current.toList.map List.reverse)
            else
              match escapes.lookup d with
              | some e => add [e] rest
              | none => .error ("invalid sequence \x27\\".toList ++ d :: "\x27 in -S".toList)
      else if c = '$' && !single then
        match reference? rest with
        | some (name, length) =>
            match environment.lookup name with
            | some value => add value (rest.drop length)
            | none => words environment fuel current quote (rest.drop length)
        | none =>
            .error ("only $\x7bVARNAME\x7d expansion is supported, error at: ".toList ++ c :: rest)
      else add [c] rest

def options : Options := ⟨"i0v", "uCS", [("ignore-environment", 'i'), ("null", '0'),
  ("debug", 'v'), ("unset", 'u'), ("chdir", 'C'), ("split-string", 'S'), ("ignore-signal", 'I')],
  true⟩

def flagsFrom (environment : Environment) : Nat → List Flag → List Octets →
    Except Octets (List Flag × List Octets)
  | 0, flags, arguments => .ok (flags, arguments)
  | fuel + 1, flags, arguments => do
      let read? : Option (Except Octets (List Flag × List Octets)) :=
        match arguments with
        | ['-', '-'] :: _ => none
        | ('-' :: '-' :: word) :: more => some (options.readWord flags more word)
        | ('-' :: c :: letters) :: more => some (options.readLetters flags more (c :: letters))
        | _ => none
      match read? with
      | none =>
          let isMarked := arguments.head? == some ['-', '-']
          return (flags, if isMarked then arguments.tail else arguments)
      | some result =>
          let (flags, more) ← result
          match flags with
          | ⟨'S', text⟩ :: flags =>
              let found ← words environment (text.length + 1) none none text
              flagsFrom environment fuel flags (found ++ more)
          | _ => flagsFrom environment fuel flags more

def isAboutBlank (text : Octets) : Bool :=
  let start := "invalid option -- \x27".toList
  start.isPrefixOf text && ((text.drop start.length).head?.any Octets.isSpace)

def setVariable (environment : Environment) (name value : Octets) : Environment :=
  if environment.any fun e => e.1 == name then
    environment.map fun e => if e.1 == name then (name, value) else e
  else environment ++ [(name, value)]

def assigned (environment : Environment) : List Octets → Environment × List Octets
  | [] => (environment, [])
  | a :: more =>
      let name := a.takeWhile (· != '=')
      if name.length < a.length then
        assigned (setVariable environment name (a.drop (name.length + 1))) more
      else (environment, a :: more)

def start (r : Runner) (name : Octets) (environment : Environment) (program : Octets)
    (arguments : List Octets) : Act Ending := do
  match ← runNamed r environment program arguments with
  | .ok ending => return ending
  | .error fault =>
      remark name (Octets.quoted program ++ ": ".toList ++ fault.toolReason.toList)
      if fault matches .walk .missing && program.any Octets.isSpace then
        remark name "use -[v]S to pass options in shebang lines".toList
      return .exited fault.status

def inFolder (name folder : Octets) (work : Act Ending) : Act Ending := do
  let s ← get
  let tree := s.machine.tree
  match tree.find (pathOf folder) with
  | .ok (place, .folder) =>
      set { s with machine := { s.machine with tree := { tree with here := place } } }
      let ending ← work
      modify fun t => { t with machine := { t.machine with tree :=
        { t.machine.tree with here := tree.here } } }
      return ending
  | .ok _ =>
      refuse name ("cannot change directory to ".toList ++ Octets.quoted folder ++
        ": Not a directory".toList) false 125
  | .error fault =>
      refuse name ("cannot change directory to ".toList ++ Octets.quoted folder ++ ": ".toList ++
        fault.reason.toList) false 125

def run (r : Runner) (name : Octets) (environment : Environment) (arguments : List Octets) :
    Act Ending := do
  let fuel := Octets.total arguments + arguments.length + 1
  match flagsFrom environment fuel [] arguments with
  | .error text =>
      if isAboutBlank text then
        remark name text
        refuse name "use -[v]S to pass options in shebang lines".toList true 125
      else
        let hinted := ["invalid option", "unrecognized option", "option "].any fun start =>
          start.toList.isPrefixOf text
        refuse name text hinted 125
  | .ok (flags, rest) =>
      let isBare := rest.head? == some ['-']
      let rest := if isBare then rest.tail else rest
      let dropped := flags.reverse.filter fun f => f.letter == 'u'
      match dropped.find? fun f => f.value.isEmpty || f.value.contains '=' with
      | some f =>
          refuse name ("cannot unset ".toList ++ Octets.quoted f.value ++
            ": Invalid argument".toList) false 125
      | none =>
          let given : Environment := if isBare || Flag.given flags 'i' then [] else environment
          let kept := given.filter fun e => !dropped.any fun f => f.value == e.1
          let (environment, rest) := assigned kept rest
          match Flag.given flags '0', Flag.last? flags.reverse 'C', rest with
          | true, _, _ :: _ => refuse name "cannot specify --null (-0) with command".toList true 125
          | _, some _, [] => refuse name "must specify command with --chdir (-C)".toList true 125
          | isMarked, none, [] => do
              let mark := if isMarked then '\x00' else '\n'
              environment.forM fun (key, value) => Act.write 1 (key ++ '=' :: value ++ [mark])
              return .exited 0
          | _, none, program :: arguments => start r name environment program arguments
          | _, some folder, program :: arguments =>
              inFolder name folder (start r name environment program arguments)

end LessonAudit.Program.Shell.Surroundings
