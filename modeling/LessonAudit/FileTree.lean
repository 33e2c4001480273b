import LessonAudit.Disk
set_option autoImplicit false

namespace LessonAudit

/-- What stands at a place. `bare` is a file that can be opened and not be read, `sink` takes
everything and holds nothing, `zeros` holds bytes without end, which are zero for want of any
others, `full` has no room for anything, and `tool` is a program that every system has or the one
that is under way. -/
inductive Entry where
  | folder
  | file (bytes : List UInt8) (executable : Bool)
  | link (target : List UInt8)
  | bare
  | sink
  | zeros
  | full
  | tool (name : String)
deriving DecidableEq, Repr

abbrev FilePlace := List (List UInt8)

structure FileTree where
  here : FilePlace
  entries : List (FilePlace × Entry)
deriving Repr

inductive WalkFault where
  | missing
  | notFolder
  | manyLinks
deriving DecidableEq, Repr

namespace WalkFault

def reason : WalkFault → String
  | missing => "No such file or directory"
  | notFolder => "Not a directory"
  | manyLinks => "Too many levels of symbolic links"

def code : WalkFault → Nat
  | missing => 2
  | notFolder => 20
  | manyLinks => 40

end WalkFault

def systemError (reason : String) (code : Nat) : String :=
  reason ++ " (os error " ++ toString code ++ ")"

def WalkFault.text (fault : WalkFault) : String :=
  systemError fault.reason fault.code

namespace FileTree

def entry? (t : FileTree) (place : FilePlace) : Option Entry :=
  if place.isEmpty then some .folder else t.entries.lookup place

def linkLimit : Nat := 40

/-- Goes from `place` along the pieces of a path as far as there is anything, and gives where it
got and the pieces that are left. Every piece but a name needs a folder to stand in. -/
def walk (t : FileTree) (links : Nat) (place : FilePlace) (pieces : List (List UInt8)) :
    Except WalkFault (FilePlace × List (List UInt8)) :=
  match pieces with
  | [] => .ok (place, [])
  | piece :: more =>
      if t.entry? place ≠ some .folder then .error .notFolder
      else if Path.isIdle piece then walk t links place more
      else if piece = [Path.dot, Path.dot] then walk t links place.dropLast more
      else
        let next := place ++ [piece]
        match t.entry? next with
        | none => .ok (place, piece :: more)
        | some (.link target) =>
            match links with
            | 0 => .error .manyLinks
            | links + 1 =>
                let start := if (Path.mk target).isAbsolute then [] else place
                walk t links start (Text.pieces Path.slash target ++ more)
        | some _ => walk t links next more
termination_by (links, pieces.length)

def reach (t : FileTree) (path : Path) : Except WalkFault (FilePlace × List (List UInt8)) :=
  if path.bytes = [] then .error .missing
  else
    walk t linkLimit (if path.isAbsolute then [] else t.here) (Text.pieces Path.slash path.bytes)

def find (t : FileTree) (path : Path) : Except WalkFault (FilePlace × Entry) :=
  match t.reach path with
  | .error fault => .error fault
  | .ok (place, []) =>
      match t.entry? place with
      | some entry => .ok (place, entry)
      | none => .error .missing
  | .ok (_, _ :: _) => .error .missing

def findNew (t : FileTree) (path : Path) : Except WalkFault FilePlace :=
  match t.reach path with
  | .error fault => .error fault
  | .ok (place, []) => .ok place
  | .ok (place, [piece]) =>
      if t.entry? place = some .folder then .ok (place ++ [piece])
      else .error .notFolder
  | .ok _ => .error .missing

def names (t : FileTree) (place : FilePlace) : List (List UInt8) :=
  t.entries.filterMap fun (other, _) =>
    if other.dropLast = place then other.getLast? else none

def parent (path : Path) : Path × List UInt8 :=
  let pieces := Text.pieces Path.slash path.bytes
  let name := pieces.getLast?.getD []
  match pieces.dropLast with
  | [] => (⟨"."⟩, name)
  | [[]] => (⟨"/"⟩, name)
  | folder => (⟨Text.joined Path.slash folder⟩, name)

def findOwn (t : FileTree) (path : Path) : Except WalkFault (FilePlace × Entry) :=
  let (folder, name) := parent path
  if Path.isIdle name || name = [Path.dot, Path.dot] then t.find path
  else
    match t.find folder with
    | .error fault => .error fault
    | .ok (place, .folder) =>
        match t.entry? (place ++ [name]) with
        | some entry => .ok (place ++ [name], entry)
        | none => .error .missing
    | .ok _ => .error .notFolder

def bytes (t : FileTree) (path : Path) : Except DiskFault (List UInt8) :=
  match t.find path with
  | .error fault => .error (.unopened fault.text)
  | .ok (_, .file bytes _) => .ok bytes
  | .ok (_, .folder) => .error (.unread (systemError "Is a directory" 21))
  | .ok (_, .bare) => .error (.unread (systemError "Input/output error" 5))
  | .ok _ => .ok []

def disk (t : FileTree) : Disk where
  isFolder path :=
    match t.find path with
    | .ok (_, .folder) => true
    | _ => false
  isFile path :=
    match t.find path with
    | .ok (_, .file ..) | .ok (_, .bare) | .ok (_, .tool _) => true
    | _ => false
  names path :=
    match t.find path with
    | .ok (place, .folder) => t.names place
    | _ => []
  bytes := t.bytes

def put (t : FileTree) (place : FilePlace) (entry : Entry) : FileTree :=
  { t with entries := t.entries.filter (fun e => e.1 != place) ++ [(place, entry)] }

def makeFolders (t : FileTree) (done : FilePlace) : List (List UInt8) → FileTree
  | [] => t
  | name :: more =>
      let next := done ++ [name]
      let t := if (t.entry? next).isSome then t else t.put next .folder
      t.makeFolders next more

def placeFor? (t : FileTree) (path : Path) : Option FilePlace :=
  match t.reach path with
  | .error _ => none
  | .ok (place, rest) =>
      some (rest.foldl
        (fun place piece =>
          if Path.isIdle piece then place
          else if piece = [Path.dot, Path.dot] then place.dropLast
          else place ++ [piece])
        place)

def makeFolder (t : FileTree) (path : Path) : FileTree :=
  match t.placeFor? path with
  | some place => t.makeFolders [] place
  | none => t

def write (t : FileTree) (path : Path) (bytes : List UInt8) (executable : Bool) : FileTree :=
  match t.placeFor? path with
  | none => t
  | some place =>
      let before :=
        match t.entry? place with
        | some (.file _ executable) => executable
        | _ => false
      (t.makeFolders [] place.dropLast).put place (.file bytes (executable || before))

def ownPlace? (t : FileTree) (path : Path) : Option FilePlace :=
  let (folder, name) := parent path
  (t.placeFor? folder).map fun place => place ++ [name]

def link (t : FileTree) (path : Path) (target : List UInt8) : FileTree :=
  match t.ownPlace? path with
  | none => t
  | some place => (t.makeFolders [] place.dropLast).put place (.link target)

def remove (t : FileTree) (path : Path) : FileTree :=
  match t.ownPlace? path with
  | none => t
  | some place => { t with entries := t.entries.filter fun e => !place.isPrefixOf e.1 }

def toolNames : List String :=
  ["[", "arch", "awk", "base64", "basename", "bash", "cat", "chmod", "cksum", "cmp", "comm", "cp",
    "cut", "dash", "date", "dd", "diff", "dirname", "echo", "egrep", "env", "expand", "expr",
    "factor", "false", "fgrep", "find", "fold", "grep", "head", "hostname", "id", "ln", "ls",
    "mawk", "md5sum", "mkdir", "mktemp", "mv", "nice", "nl", "nohup", "nproc", "od", "paste",
    "printenv", "printf", "pwd", "readlink", "realpath", "rev", "rm", "rmdir", "sed", "seq",
    "setsid", "sh", "sha1sum", "sha224sum", "sha256sum", "sha384sum", "sha512sum", "sleep",
    "sort", "stat", "stdbuf", "sum", "sync", "tac", "tail", "tee", "test", "timeout", "touch",
    "tr", "true", "truncate", "tty", "uname", "uniq", "unlink", "wc", "which", "whoami", "xargs",
    "yes"]

def placeOf (names : List String) : FilePlace :=
  names.map Text.Utf8.encode

-- the number of the process that starts the renderers
def ownProcess : Nat := 100

def usualEntries : List (List String × Entry) :=
  [(["work"], .folder), (["etc"], .folder), (["tmp"], .folder), (["bin"], .folder),
    (["usr"], .folder), (["usr", "bin"], .folder), (["usr", "lib"], .folder),
    (["usr", "local"], .folder), (["home"], .folder), (["opt"], .folder), (["root"], .folder),
    (["var"], .folder), (["var", "tmp"], .folder), (["dev"], .folder),
    (["dev", "null"], .sink), (["dev", "zero"], .zeros), (["dev", "full"], .full),
    (["dev", "random"], .zeros), (["dev", "urandom"], .zeros),
    (["proc"], .folder),
    (["proc", "self"], .folder), (["proc", "self", "mem"], .bare),
    (["proc", toString ownProcess], .folder),
    (["proc", toString ownProcess, "exe"], .tool "lesson-check"),
    (["etc", "passwd"], .bare), (["etc", "hosts"], .bare), (["etc", "hostname"], .bare)] ++
  toolNames.flatMap fun name =>
    [(["bin", name], .tool name), (["usr", "bin", name], .tool name)]

def workplace : FileTree where
  here := placeOf ["work"]
  entries := usualEntries.map fun (names, entry) => (placeOf names, entry)

end FileTree
end LessonAudit
