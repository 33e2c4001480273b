import LessonAudit.Program.Edit.Stream
set_option autoImplicit false

namespace LessonAudit.Program.Tool

open Work
open Edit (ScriptPart InputLine Manner Editor)

def editOptions : Options :=
  ⟨"nErsuzbDPS", "efIl", [("quiet", 'n'), ("silent", 'n'), ("expression", 'e'), ("file", 'f'),
    ("regexp-extended", 'E'), ("separate", 's'), ("unbuffered", 'u'), ("null-data", 'z'),
    ("zero-terminated", 'z'), ("line-length", 'l'), ("binary", 'b'), ("debug", 'D'),
    ("posix", 'P'), ("sandbox", 'S'), ("follow-symlinks", 'b')], false⟩

def splitInPlace (argument : Octets) : List Octets :=
  match argument with
  | '-' :: '-' :: word =>
      let name := word.takeWhile (· != '=')
      if name = "in-place".toList then ["-I".toList, word.drop (name.length + 1)] else [argument]
  | '-' :: letters =>
      let before := letters.takeWhile fun c => "nErsuzb".toList.contains c
      match letters.drop before.length with
      | 'i' :: ending =>
          (if before.isEmpty then [] else ['-' :: before]) ++ ["-I".toList, ending]
      | _ => [argument]
  | _ => [argument]

def valueFollows (argument : Octets) : Bool :=
  match argument with
  | '-' :: '-' :: word =>
      ["expression", "file", "line-length"].any fun w => w.toList == word
  | '-' :: letters =>
      let rest := letters.dropWhile fun c => "nErsuzb".toList.contains c
      rest.length == 1 && rest.all fun c => "efl".toList.contains c
  | _ => false

def withInPlace : List Octets → List Octets
  | [] => []
  | ['-', '-'] :: more => ['-', '-'] :: more
  | a :: more =>
      if valueFollows a then
        match more with
        | value :: more => a :: value :: withInPlace more
        | [] => [a]
      else splitInPlace a ++ withInPlace more

def scriptParts (tree : FileTree) (flags : List Flag) :
    Except (Octets × String) (List ScriptPart) :=
  (flags.filter fun f => f.letter == 'e' || f.letter == 'f').mapM fun f =>
    if f.letter = 'e' then .ok ⟨none, f.value⟩
    else
      match readFile tree f.value with
      | .ok octets =>
          let octets := if octets.getLast? = some '\n' then octets.dropLast else octets
          .ok ⟨some f.value, octets⟩
      | .error reason => .error (f.value, reason)

def inputLines (mark : Char) (name octets : Octets) : List InputLine :=
  let lines := Octets.fullLines mark octets
  let count := lines.length
  lines.zipIdx.map fun (line, n) =>
    let ended := line.getLast? == some mark
    ⟨if ended then line.dropLast else line, ended, name, n == 0, n + 1 == count⟩

def emptyFiles : List Octets → Work Bool
  | [] => return true
  | name :: more => do
      if isInputName name || ["/dev/stdout", "/dev/stderr"].contains (String.ofList name) then
        emptyFiles more
      else
        match writeFile (← get).tree name [] with
        | .ok tree =>
            modify fun d => { d with tree := tree }
            emptyFiles more
        | .error reason =>
            complain ("couldn\x27t open file ".toList ++ name ++ ": ".toList ++
              reason.toList) 4
            return false

def editInput (mark : Char) (inPlace : Bool) :
    List Octets → Work (List InputLine × Option Octets)
  | [] => return ([], none)
  | name :: more => do
      match ← read name with
      | .ok octets =>
          let (lines, folder) ← editInput mark inPlace more
          return (inputLines mark name octets ++ lines, folder)
      | .error reason =>
          if reason = "Is a directory" then
            if inPlace then
              complain ("couldn\x27t edit ".toList ++ name ++ ": not a regular file".toList) 4
              editInput mark inPlace more
            else return ([], some name)
          else
            complain ("can\x27t read ".toList ++ name ++ ": ".toList ++ reason.toList) 2
            editInput mark inPlace more

def editFiles (m : Manner) (p : Edit.Recipe) (names : List Octets) : Work Unit := do
  if ← emptyFiles p.files then
    let names := if names.isEmpty then [['-']] else names
    let (lines, folder) ← editInput m.mark m.inPlace.isSome names
    let (result, e) ← (Edit.runRounds m p Edit.stepLimit false).run (Editor.start p lines)
    let (_, e) ← (Edit.finishFile m).run e
    e.outputs.forM fun (name, written) => write name written.reverse.flatten
    match result, folder with
    | .error message, _ => complain message 1
    | .ok 0, some name =>
        complain ("read error on ".toList ++ name ++ ": Is a directory".toList) 4
    | .ok 0, none => return ()
    | .ok status, _ => setStatus status

def usageOfSed : Work Unit := do
  remark ("Usage: ".toList ++ (← get).name ++
    " [OPTION]... \x7bscript-only-if-no-other-script\x7d [input-file]...".toList)
  setStatus 1

def sed (arguments : List Octets) : Work Unit := do
  match editOptions.read (withInPlace arguments) with
  | .error text =>
      complain text 1
      usageOfSed
  | .ok (flags, names) =>
      let has (c : Char) : Bool := Flag.given flags c
      let given := has 'e' || has 'f'
      match given, names with
      | false, [] => usageOfSed
      | _, _ =>
          let inPlace := Flag.last? flags 'I'
          let width := ((Flag.last? flags 'l').bind Octets.int?).elim 70 Int.toNat
          let mark := if has 'z' then '\x00' else '\n'
          let m : Manner := ⟨mark, has 's' || inPlace.isSome, inPlace, width⟩
          let tree := (← get).tree
          let parts :=
            if given then scriptParts tree flags else .ok [⟨none, names.headD []⟩]
          match parts with
          | .error (name, reason) =>
              complain ("couldn\x27t open file ".toList ++ name ++ ": ".toList ++
                reason.toList) 4
          | .ok parts =>
              match Edit.Recipe.read (has 'E' || has 'r') (has 'n') parts with
              | .error (text, status) => complain text status
              | .ok p => editFiles m p (if given then names else names.drop 1)

end LessonAudit.Program.Tool
