import LessonAudit.Program.Shell.Condition
import LessonAudit.Program.Tool.Files
set_option autoImplicit false

namespace LessonAudit.Program.Tool

open Work

def placePath (place : FilePlace) : Octets :=
  if place.isEmpty then ['/'] else place.flatMap fun piece => '/' :: Octets.ofBytes piece

def kindMark (all : Bool) (entry : Entry) : Octets :=
  match entry with
  | .folder => ['/']
  | .link _ => if all then ['@'] else []
  | .file _ true | .tool _ => if all then ['*'] else []
  | _ => []

structure Listing where
  hidden : Bool
  around : Bool
  folders : Bool
  marks : Bool
  folderMarks : Bool
  reverse : Bool
  recursive : Bool
  row : Bool
  quotes : Bool
  linked : Bool

namespace Listing

def ofFlags (flags : List Flag) : Listing where
  hidden := Flag.given flags 'a' || Flag.given flags 'A'
  around := Flag.given flags 'a'
  folders := Flag.given flags 'd'
  marks := Flag.given flags 'F'
  folderMarks := Flag.given flags 'p'
  reverse := Flag.given flags 'r'
  recursive := Flag.given flags 'R'
  row := Flag.given flags 'm'
  quotes := Flag.given flags 'Q'
  linked := Flag.given flags 'L'

def ordered (l : Listing) (names : List Octets) : List Octets :=
  let sorted := names.mergeSort fun a b => !Octets.before b a
  if l.reverse then sorted.reverse else sorted

def shown (l : Listing) (e : Octets × Entry) : Octets :=
  let name := if l.quotes then '"' :: e.1 ++ ['"'] else e.1
  if l.marks then name ++ kindMark true e.2
  else if l.folderMarks then name ++ kindMark false e.2
  else name

def lines (l : Listing) (entries : List (Octets × Entry)) : Octets :=
  let names := entries.map l.shown
  if l.row then (if names.isEmpty then [] else Octets.joined [',', ' '] names ++ ['\n'])
  else names.flatMap fun name => name ++ ['\n']

def members (l : Listing) (tree : FileTree) (place : FilePlace) : List (Octets × Entry) :=
  let names := (tree.names place).map Octets.ofBytes
  let names := if l.hidden then names else names.filter fun name => name.head? != some '.'
  let names := if l.around then ['.'] :: ['.', '.'] :: names else names
  (l.ordered names).map fun name =>
    (name, (tree.entry? (place ++ [Octets.toBytes name])).getD .folder)

def sections (l : Listing) (tree : FileTree) : Nat → List (Octets × FilePlace) →
    List (Octets × Octets)
  | 0, _ => []
  | _ + 1, [] => []
  | fuel + 1, (path, place) :: more =>
      let found := l.members tree place
      let inner :=
        if l.recursive then
          found.filterMap fun (name, entry) =>
            if entry = .folder && name ≠ ['.'] && name ≠ ['.', '.'] then
              some (inside path name, place ++ [Octets.toBytes name])
            else none
        else []
      (path, l.lines found) :: l.sections tree fuel (inner ++ more)

end Listing

def listOptions : Options :=
  ⟨"1aAFpdrRmQLUtScukxCfgGlnohisvXqN", "Iw", [("all", 'a'), ("almost-all", 'A'), ("classify", 'F'),
    ("directory", 'd'), ("reverse", 'r'), ("recursive", 'R'), ("quote-name", 'Q')], false⟩

def ls (arguments : List Octets) : Work Unit := do
  withOptions 2 listOptions arguments fun flags names => do
    let l := Listing.ofFlags flags
    let tree := (← get).tree
    let found (name : Octets) : Except WalkFault (FilePlace × Entry) :=
      let own := if l.linked then tree.find (pathOf name) else tree.findOwn (pathOf name)
      match own, tree.find (pathOf name) with
      | .ok (_, .link _), .ok (place, .folder) =>
          if l.folders || l.marks then own else .ok (place, .folder)
      | own, _ => own
    let names := l.ordered (if names.isEmpty then [['.']] else names)
    for name in names do
      match found name with
      | .ok _ => pure ()
      | .error fault => complain (failing "cannot access " name fault.reason) 2
    let present := names.filterMap fun name => (found name).toOption.map fun e => (name, e)
    let (folders, files) := present.partition fun e => e.2.2 == .folder && !l.folders
    let sections :=
      l.sections tree (tree.entries.length + folders.length + 1)
        (folders.map fun e => (e.1, e.2.1))
    put (l.lines (files.map fun e => (e.1, e.2.2)))
    let titled := 1 < names.length || l.recursive
    let blocks := sections.map fun (path, text) =>
      if titled then path ++ ':' :: '\n' :: text else text
    put ((if files.isEmpty || blocks.isEmpty then [] else ['\n']) ++ Octets.joined ['\n'] blocks)

inductive Presence where
  | folder
  | all
  | none
deriving DecidableEq, Repr

def canonical (tree : FileTree) (presence : Presence) (name : Octets) : Except String Octets :=
  let path := pathOf name
  match presence with
  | .all =>
      match tree.find path with
      | .ok (place, _) => .ok (placePath place)
      | .error fault => .error fault.reason
  | .folder =>
      match tree.find path, tree.findNew (pathOf (withoutSlashes name)) with
      | .ok (place, _), _ => .ok (placePath place)
      | .error .notFolder, _ => .error WalkFault.notFolder.reason
      | .error _, .ok place => .ok (placePath place)
      | .error _, .error fault => .error fault.reason
  | .none =>
      match tree.placeFor? path with
      | some place => .ok (placePath place)
      | none => .error WalkFault.missing.reason

def presenceOf (flags : List Flag) (usual : Presence) : Presence :=
  if Flag.given flags 'm' then .none
  else if Flag.given flags 'e' then .all
  else if Flag.given flags 'f' then .folder
  else usual

def readlink (arguments : List Octets) : Work Unit := do
  let o : Options :=
    ⟨"femnqsvz", "", [("canonicalize", 'f'), ("canonicalize-existing", 'e'),
      ("canonicalize-missing", 'm'), ("no-newline", 'n'), ("zero", 'z'), ("verbose", 'v')], false⟩
  withOptions 1 o arguments fun flags names => do
    if names.isEmpty then misuse "missing operand".toList 1
    else
      let has (c : Char) : Bool := Flag.given flags c
      let ending : Octets :=
        if has 'n' && names.length = 1 then [] else if has 'z' then ['\x00'] else ['\n']
      for name in names do
        let tree := (← get).tree
        let found : Except String Octets :=
          if has 'f' || has 'e' || has 'm' then canonical tree (presenceOf flags .folder) name
          else
            match tree.findOwn (pathOf name) with
            | .ok (_, .link target) => .ok (Octets.ofBytes target)
            | .ok _ => .error "Invalid argument"
            | .error fault => .error fault.reason
        match found with
        | .ok path => put (path ++ ending)
        | .error reason =>
            if has 'v' then
              complain (Octets.named name ++ ": ".toList ++ reason.toList) 1
            else setStatus 1

def relativePath (origin place : FilePlace) : Octets :=
  let common := ((List.zip origin place).takeWhile fun e => e.1 == e.2).length
  let up := List.replicate (origin.length - common) ['.', '.']
  let down := (place.drop common).map Octets.ofBytes
  if up.isEmpty && down.isEmpty then ['.'] else Octets.joined ['/'] (up ++ down)

def realpath (arguments : List Octets) : Work Unit := do
  let o : Options :=
    ⟨"emsqzLP", "RB", [("canonicalize-existing", 'e'), ("canonicalize-missing", 'm'),
      ("no-symlinks", 's'), ("quiet", 'q'), ("zero", 'z'), ("relative-to", 'R'),
      ("relative-base", 'B')], false⟩
  withOptions 1 o arguments fun flags names => do
    if names.isEmpty then misuse "missing operand".toList 1
    else
      let ending := if Flag.given flags 'z' then '\x00' else '\n'
      for name in names do
        let tree := (← get).tree
        match canonical tree (presenceOf flags .folder) name with
        | .error reason =>
            complain (Octets.named name ++ ": ".toList ++ reason.toList) 1
        | .ok path =>
            let origin := (Flag.last? flags 'R').bind fun folder => tree.placeFor? (pathOf folder)
            let shown :=
              match origin, tree.placeFor? (pathOf path) with
              | some origin, some place => relativePath origin place
              | _, _ => path
            put (shown ++ [ending])

def entrySize (entry : Entry) : Nat :=
  match entry with
  | .file bytes _ => bytes.length
  | .link target => (Octets.ofBytes target).length
  | .folder => 4096
  | _ => 0

def entryKind (entry : Entry) : String :=
  match entry with
  | .file [] _ => "regular empty file"
  | .file .. | .bare | .tool _ => "regular file"
  | .link _ => "symbolic link"
  | .folder => "directory"
  | .sink | .zeros | .full => "character special file"

def entryRights (entry : Entry) : String × String :=
  match entry with
  | .file _ true | .tool _ => ("755", "-rwxr-xr-x")
  | .file _ false | .bare => ("644", "-rw-r--r--")
  | .link _ => ("777", "lrwxrwxrwx")
  | .folder => ("755", "drwxr-xr-x")
  | .sink | .zeros | .full => ("666", "crw-rw-rw-")

def factsIn (name : Octets) (entry : Entry) : Octets → Octets
  | '%' :: c :: rest =>
      let fact : Octets :=
        match c with
        | 'n' => name
        | 's' => Octets.ofNat (entrySize entry)
        | 'F' => (entryKind entry).toList
        | 'a' => (entryRights entry).1.toList
        | 'A' => (entryRights entry).2.toList
        | 'U' | 'G' => "root".toList
        | 'u' | 'g' => ['0']
        | 'h' => ['1']
        | 'N' =>
            match entry with
            | .link target =>
                Octets.quoted name ++ " -> ".toList ++ Octets.quoted (Octets.ofBytes target)
            | _ => Octets.quoted name
        | '%' => ['%']
        | _ => ['?']
      fact ++ factsIn name entry rest
  | c :: rest => c :: factsIn name entry rest
  | [] => []

def stat (arguments : List Octets) : Work Unit := do
  let o : Options :=
    ⟨"Lft", "cP", [("format", 'c'), ("printf", 'P'), ("dereference", 'L')], false⟩
  withOptions 1 o arguments fun flags names => do
    if names.isEmpty then misuse "missing operand".toList 1
    else
      for name in names do
        let tree := (← get).tree
        let found :=
          if Flag.given flags 'L' then tree.find (pathOf name) else tree.findOwn (pathOf name)
        match found, Flag.last? flags 'c', Flag.last? flags 'P' with
        | .error fault, _, _ => complain (failing "cannot statx " name fault.reason) 1
        | .ok (_, entry), some format, _ => putLine (factsIn name entry format)
        | .ok (_, entry), none, some format =>
            put (Format.resolved .tool (factsIn name entry format)).1
        | .ok (_, entry), none, none => putLine (factsIn name entry "  File: %n".toList)

def test (bracket : Bool) (arguments : List Octets) : Work Unit := do
  match Condition.holds (← get).tree bracket arguments with
  | .ok true => return ()
  | .ok false => setStatus 1
  | .error text =>
      complain (if text = "missing ]".toList then "missing \x27]\x27".toList else text) 2

def pwd (arguments : List Octets) : Work Unit := do
  withOptions 1 ⟨"LP", "", [("logical", 'L'), ("physical", 'P')], false⟩ arguments
    fun _ names => do
      if !names.isEmpty then report "ignoring non-option arguments".toList
      putLine (placePath (← get).tree.here)

def single (line : String) (arguments : List Octets) : Work Unit :=
  withOptions 1 ⟨"", "", [], false⟩ arguments fun _ names => do
    match names with
    | [] => putLine line.toList
    | name :: _ => misuse ("extra operand ".toList ++ Octets.quoted name) 1

def id (arguments : List Octets) : Work Unit := do
  let o : Options :=
    ⟨"uganGrz", "", [("user", 'u'), ("group", 'g'), ("groups", 'G'), ("name", 'n')], false⟩
  withOptions 1 o arguments fun flags names => do
      let has (c : Char) : Bool := Flag.given flags c
      match names.filter fun name => name != "root".toList && name != ['0'] with
      | name :: more =>
          (name :: more).forM fun name =>
            complain (Octets.quoted name ++ ": no such user".toList) 1
      | [] =>
          if has 'u' || has 'g' || has 'G' then
            putLine (if has 'n' then "root" else "0").toList
          else putLine "uid=0(root) gid=0(root) groups=0(root)".toList

def uname (arguments : List Octets) : Work Unit := do
  let o : Options :=
    ⟨"asnrvmpio", "", [("kernel-name", 's'), ("machine", 'm'), ("operating-system", 'o')], false⟩
  withOptions 1 o arguments fun flags names => do
    match names with
    | name :: _ => misuse ("extra operand ".toList ++ Octets.quoted name) 1
    | [] =>
        let parts := [('s', "Linux"), ('m', "x86_64"), ('p', "unknown"), ('i', "unknown"),
          ('o', "GNU/Linux")]
        let wanted := parts.filter fun e => Flag.given flags e.1
        let wanted := if flags.isEmpty then [('s', "Linux")] else wanted
        putLine (Octets.joined [' '] (wanted.map fun e => e.2.toList))

def isTime (text : Octets) : Bool :=
  let body := match text.getLast? with
    | some c => if "smhd".toList.contains c then text.dropLast else text
    | none => text
  match Decimal.ofText? body with
  | some d => 0 ≤ d.scaled
  | none => body = "inf".toList || body = "infinity".toList

def sleep (arguments : List Octets) : Work Unit := do
  withOptions 1 ⟨"", "", [], true⟩ arguments fun _ names => do
    if names.isEmpty then misuse "missing operand".toList 1
    else
      match names.filter fun name => !isTime name with
      | [] => return ()
      | bad =>
          let last := bad.getLast?.getD []
          bad.dropLast.forM fun name =>
            report ("invalid time interval ".toList ++ Octets.quoted name)
          misuse ("invalid time interval ".toList ++ Octets.quoted last) 1

def tty (arguments : List Octets) : Work Unit := do
  withOptions 2 ⟨"s", "", [("silent", 's'), ("quiet", 's')], false⟩ arguments
    fun flags names => do
      match names with
      | [] =>
          if !Flag.given flags 's' then putLine "not a tty".toList
          setStatus 1
      | name :: _ => misuse ("extra operand ".toList ++ Octets.quoted name) 2

def canRun (tree : FileTree) (path : Octets) : Bool :=
  match tree.find (pathOf path) with
  | .ok (_, .tool _) | .ok (_, .file _ true) => true
  | _ => false

def which (arguments : List Octets) : Work Unit := do
  match (⟨"as", "", [], true⟩ : Options).read arguments with
  | .error text =>
      remark ("Illegal option -".toList ++ (text.reverse.drop 1).take 1)
      putLine "Usage: /usr/bin/which [-as] args".toList
      setStatus 2
  | .ok (flags, names) =>
      let d ← get
      let folders := Octets.pieces ':' ((d.environment.lookup "PATH".toList).getD [])
      let found (name : Octets) : List Octets :=
        let paths :=
          if name.contains '/' then [name]
          else folders.map fun folder => (if folder.isEmpty then ['.'] else folder) ++ '/' :: name
        let paths := paths.filter (canRun d.tree)
        if Flag.given flags 'a' then paths else paths.take 1
      if !Flag.given flags 's' then names.forM fun name => (found name).forM putLine
      if names.isEmpty || names.any fun name => (found name).isEmpty then setStatus 1

end LessonAudit.Program.Tool
