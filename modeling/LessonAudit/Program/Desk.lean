import LessonAudit.FileTree
import LessonAudit.Program.Octets
set_option autoImplicit false

namespace LessonAudit.Program

inductive Stream where
  | out
  | err
deriving DecidableEq, Repr

structure Desk where
  name : Octets
  tree : FileTree
  environment : List (Octets × Octets)
  input : Octets
  isFile : Bool
  inputFault : Option String
  written : List (Stream × Octets)
  status : Nat

abbrev Work := StateM Desk

def pathOf (name : Octets) : Path :=
  ⟨Octets.toBytes name⟩

def isInputName (name : Octets) : Bool :=
  ["/dev/stdin", "/dev/fd/0", "/proc/self/fd/0"].any fun text => text.toList == name

def zeroCount : Nat := 1048576

def readFile (tree : FileTree) (name : Octets) : Except String Octets :=
  match tree.find (pathOf name) with
  | .error fault => .error fault.reason
  | .ok (_, .folder) => .error "Is a directory"
  | .ok (_, .bare) => .error "Input/output error"
  | .ok (_, .file bytes _) => .ok (Octets.ofBytes bytes)
  | .ok (_, .zeros) | .ok (_, .full) => .ok (List.replicate zeroCount '\x00')
  | .ok _ => .ok []

def isMissing (tree : FileTree) (name : Octets) : Bool :=
  name != ['-'] && !isInputName name && (tree.find (pathOf name)).toOption.isNone

def writeFile (tree : FileTree) (name octets : Octets) : Except String FileTree :=
  match tree.findNew (pathOf name) with
  | .error fault => .error fault.reason
  | .ok place =>
      match tree.entry? place with
      | some .folder => .error "Is a directory"
      | some (.file _ executable) =>
          .ok (tree.put place (.file (Octets.toBytes octets) executable))
      | some (.tool _) => .error "Text file busy"
      | some .full => .error "No space left on device"
      | some _ => .ok tree
      | none => .ok (tree.put place (.file (Octets.toBytes octets) false))

namespace Work

def put (octets : Octets) : Work Unit :=
  modify fun d => { d with written := (.out, octets) :: d.written }

def putLine (octets : Octets) : Work Unit :=
  put (octets ++ ['\n'])

def remark (octets : Octets) : Work Unit :=
  modify fun d => { d with written := (.err, octets ++ ['\n']) :: d.written }

def setStatus (status : Nat) : Work Unit :=
  modify fun d => { d with status := status }

def report (text : Octets) : Work Unit := do
  remark ((← get).name ++ ": ".toList ++ text)

def complain (text : Octets) (status : Nat) : Work Unit := do
  report text
  setStatus status

def hint (name : Octets) : Octets :=
  "Try \x27".toList ++ name ++ " --help\x27 for more information.".toList

def misuse (text : Octets) (status : Nat) : Work Unit := do
  complain text status
  remark (hint (← get).name)

def takeInput : Work Octets := do
  let d ← get
  set { d with input := [] }
  return d.input

def read (name : Octets) : Work (Except String Octets) := do
  if name = ['-'] || isInputName name then
    match (← get).inputFault with
    | some reason => return .error reason
    | none => return .ok (← takeInput)
  else return readFile (← get).tree name

def readOr (status : Nat) (name : Octets) : Work (Option Octets) := do
  match ← read name with
  | .ok octets => return some octets
  | .error reason =>
      complain (Octets.named name ++ ": ".toList ++ reason.toList) status
      return none

def readAll (status : Nat) : List Octets → Work (List (Octets × Octets))
  | [] => return []
  | name :: more => do
      let found ← readOr status name
      let others ← readAll status more
      return (found.toList.map fun octets => (name, octets)) ++ others

def readTogether (status : Nat) (names : List Octets) : Work Octets := do
  let found ← readAll status (if names.isEmpty then [['-']] else names)
  return found.flatMap fun e => e.2

def write (name octets : Octets) : Work Unit := do
  match writeFile (← get).tree name octets with
  | .ok tree => modify fun d => { d with tree := tree }
  | .error reason => complain (Octets.named name ++ ": ".toList ++ reason.toList) 1

end Work

structure Flag where
  letter : Char
  value : Octets
deriving DecidableEq, Repr

structure Options where
  single : String
  valued : String
  words : List (String × Char)
  strict : Bool

namespace Options

def takesValue (o : Options) (letter : Char) : Bool :=
  o.valued.toList.contains letter

def readLetters (o : Options) (done : List Flag) (more : List Octets) :
    Octets → Except Octets (List Flag × List Octets)
  | [] => .ok (done, more)
  | c :: rest =>
      if o.takesValue c then
        match rest, more with
        | _ :: _, _ => .ok (⟨c, rest⟩ :: done, more)
        | [], value :: more => .ok (⟨c, value⟩ :: done, more)
        | [], [] => .error ("option requires an argument -- \x27".toList ++ [c, '\x27'])
      else if o.single.toList.contains c then o.readLetters (⟨c, []⟩ :: done) more rest
      else .error ("invalid option -- \x27".toList ++ [c, '\x27'])

def candidates (o : Options) (word : Octets) : List (String × Char) :=
  match o.words.filter fun w => w.1.toList == word with
  | [] => o.words.filter fun w => word.isPrefixOf w.1.toList
  | found => found

def readWord (o : Options) (done : List Flag) (more : List Octets) (text : Octets) :
    Except Octets (List Flag × List Octets) :=
  let word := text.takeWhile (· != '=')
  let value := text.drop word.length
  let shown (w : Octets) : Octets := "\x27--".toList ++ w ++ ['\x27']
  match o.candidates word with
  | [] => .error ("unrecognized option ".toList ++ shown text)
  | [(name, letter)] =>
      if o.takesValue letter then
        match value, more with
        | _ :: value, _ => .ok (⟨letter, value⟩ :: done, more)
        | [], value :: more => .ok (⟨letter, value⟩ :: done, more)
        | [], [] =>
            .error ("option ".toList ++ shown name.toList ++ " requires an argument".toList)
      else if value.isEmpty then .ok (⟨letter, []⟩ :: done, more)
      else
        .error ("option ".toList ++ shown name.toList ++ " doesn\x27t allow an argument".toList)
  | found =>
      .error ("option ".toList ++ shown word ++ " is ambiguous; possibilities:".toList ++
        found.flatMap fun w => ' ' :: shown w.1.toList)

def readFrom (o : Options) : Nat → List Flag → List Octets → List Octets →
    Except Octets (List Flag × List Octets)
  | 0, flags, others, _ => .ok (flags, others)
  | _ + 1, flags, others, [] => .ok (flags, others)
  | fuel + 1, flags, others, a :: more =>
      match a with
      | ['-', '-'] => .ok (flags, more.reverse ++ others)
      | '-' :: '-' :: word =>
          match o.readWord flags more word with
          | .ok (flags, more) => o.readFrom fuel flags others more
          | .error text => .error text
      | '-' :: c :: letters =>
          match o.readLetters flags more (c :: letters) with
          | .ok (flags, more) => o.readFrom fuel flags others more
          | .error text => .error text
      | _ =>
          if o.strict then .ok (flags, more.reverse ++ a :: others)
          else o.readFrom fuel flags (a :: others) more

def read (o : Options) (arguments : List Octets) :
    Except Octets (List Flag × List Octets) :=
  (o.readFrom (arguments.length + 1) [] [] arguments).map fun (flags, others) =>
    (flags.reverse, others.reverse)

end Options

def Flag.given (flags : List Flag) (letter : Char) : Bool :=
  flags.any fun f => f.letter == letter

def Flag.last? (flags : List Flag) (letter : Char) : Option Octets :=
  (flags.reverse.find? fun f => f.letter == letter).map fun f => f.value

def Work.withOptions (status : Nat) (o : Options) (arguments : List Octets)
    (work : List Flag → List Octets → Work Unit) : Work Unit :=
  match o.read arguments with
  | .ok (flags, others) => work flags others
  | .error text => Work.misuse text status

end LessonAudit.Program
