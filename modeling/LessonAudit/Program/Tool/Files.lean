import LessonAudit.Program.Tool.Print
set_option autoImplicit false

namespace LessonAudit.Program.Tool

open Work

def slot (tree : FileTree) (name : Octets) : Except String (FilePlace × Option Entry) :=
  let path := pathOf (withoutSlashes name)
  let (folder, last) := FileTree.parent path
  if name.isEmpty then .error WalkFault.missing.reason
  else if last = "" || last = "." || last = ".." then
    match tree.find path with
    | .ok (place, entry) => .ok (place, some entry)
    | .error fault => .error fault.reason
  else
    match tree.find folder with
    | .ok (place, .folder) => .ok (place ++ [last], tree.entry? (place ++ [last]))
    | .ok _ => .error WalkFault.notFolder.reason
    | .error fault => .error fault.reason

def below (tree : FileTree) (place : FilePlace) : List (FilePlace × Entry) :=
  tree.entries.filterMap fun (other, entry) =>
    if place.isPrefixOf other then some (other.drop place.length, entry) else none

def without (tree : FileTree) (place : FilePlace) : FileTree :=
  { tree with entries := tree.entries.filter fun e => !place.isPrefixOf e.1 }

def graft (tree : FileTree) (place : FilePlace) (found : List (FilePlace × Entry)) : FileTree :=
  found.foldl (fun tree (rest, entry) => tree.put (place ++ rest) entry) tree

def setTree (tree : FileTree) : Work Unit :=
  modify fun d => { d with tree := tree }

def isFolderAt (tree : FileTree) (name : Octets) : Bool :=
  match tree.find (pathOf name) with
  | .ok (_, .folder) => true
  | _ => false

def inside (folder name : Octets) : Octets :=
  if folder.getLast? = some '/' then folder ++ name else folder ++ '/' :: name

def failing (verb : String) (name : Octets) (reason : String) : Octets :=
  verb.toList ++ Octets.quoted name ++ ": ".toList ++ reason.toList

def waysTo (name : Octets) : List Octets :=
  let pieces := Octets.pieces '/' (withoutSlashes name)
  let ways := (List.range pieces.length).map fun n => Octets.joined ['/'] (pieces.take (n + 1))
  ways.filter fun way => !way.isEmpty

def makeFolder (spoken : Bool) (name : Octets) : Work Unit := do
  let tree := (← get).tree
  let fail (reason : String) := complain (failing "cannot create directory " name reason) 1
  match slot tree name with
  | .error reason => fail reason
  | .ok (_, some _) => fail "File exists"
  | .ok (place, none) =>
      setTree (tree.put place .folder)
      if spoken then putLine ("mkdir: created directory ".toList ++ Octets.quoted name)

def makeFolders (spoken : Bool) : List Octets → Work Unit
  | [] => return ()
  | way :: more => do
      let tree := (← get).tree
      if isFolderAt tree way then makeFolders spoken more
      else
        match slot tree way with
        | .ok (place, none) =>
            setTree (tree.put place .folder)
            if spoken then putLine ("mkdir: created directory ".toList ++ Octets.quoted way)
            makeFolders spoken more
        | .ok (_, some _) =>
            let reason := if more.isEmpty then "File exists" else WalkFault.notFolder.reason
            complain (failing "cannot create directory " way reason) 1
        | .error reason => complain (failing "cannot create directory " way reason) 1

def mkdir (arguments : List Octets) : Work Unit := do
  withOptions 1 ⟨"pv", "m", [("parents", 'p'), ("verbose", 'v'), ("mode", 'm')], false⟩
    arguments fun flags names => do
      if names.isEmpty then misuse "missing operand".toList 1
      else
        let spoken := Flag.given flags 'v'
        names.forM fun name =>
          if Flag.given flags 'p' then
            if name.isEmpty then
              complain (failing "cannot create directory " name WalkFault.missing.reason) 1
            else makeFolders spoken (waysTo name)
          else makeFolder spoken name

def removeFolder (spoken : Bool) (name : Octets) : Work Bool := do
  let tree := (← get).tree
  if spoken then putLine ("rmdir: removing directory, ".toList ++ Octets.quoted name)
  let fail (reason : String) : Work Bool := do
    complain (failing "failed to remove " name reason) 1
    return false
  if lastPiece name = ['.'] then fail "Invalid argument"
  else
    match slot tree name with
    | .error reason => fail reason
    | .ok (place, some .folder) =>
        if (tree.names place).isEmpty then
          setTree (without tree place)
          return true
        else fail "Directory not empty"
    | .ok (_, some _) => fail WalkFault.notFolder.reason
    | .ok (_, none) => fail WalkFault.missing.reason

def removeFolders (spoken : Bool) : List Octets → Work Unit
  | [] => return ()
  | name :: more => do
      if ← removeFolder spoken name then removeFolders spoken more else return ()

def rmdir (arguments : List Octets) : Work Unit := do
  withOptions 1 ⟨"pv", "", [("parents", 'p'), ("verbose", 'v')], false⟩ arguments
    fun flags names => do
      if names.isEmpty then misuse "missing operand".toList 1
      else
        names.forM fun name =>
          removeFolders (Flag.given flags 'v')
            (if Flag.given flags 'p' then (waysTo name).reverse else [name])

def removeOne (recursive emptied spoken forced : Bool) (name : Octets) : Work Unit := do
  let tree := (← get).tree
  let fail (reason : String) := complain (failing "cannot remove " name reason) 1
  let remove (place : FilePlace) (word : String) : Work Unit := do
    setTree (without tree place)
    if spoken then putLine ("removed ".toList ++ word.toList ++ Octets.quoted name)
  let last := lastPiece name
  match slot tree name with
  | .error reason => if forced then return () else fail reason
  | .ok (_, none) => if forced then return () else fail WalkFault.missing.reason
  | .ok (place, some .folder) =>
      if !recursive && !emptied then fail "Is a directory"
      else if last = ['.'] || last = ['.', '.'] then
        complain ("refusing to remove \x27.\x27 or \x27..\x27 directory: skipping ".toList ++
          Octets.quoted name) 1
      else if place.isEmpty then
        complain "it is dangerous to operate recursively on \x27/\x27".toList 1
        report "use --no-preserve-root to override this failsafe".toList
      else if recursive then
        if spoken then
          ((below tree place).filter fun e => !e.1.isEmpty).reverse.forM fun (rest, entry) =>
            let word := if entry = .folder then "directory " else ""
            let shown := rest.foldl (fun path piece => inside path (Octets.ofBytes piece)) name
            putLine ("removed ".toList ++ word.toList ++ Octets.quoted shown)
        remove place "directory "
      else if (tree.names place).isEmpty then remove place "directory "
      else fail "Directory not empty"
  | .ok (place, some _) =>
      if name.getLast? = some '/' then fail WalkFault.notFolder.reason else remove place ""

def rm (arguments : List Octets) : Work Unit := do
  let o : Options :=
    ⟨"rRdfvI", "", [("recursive", 'r'), ("dir", 'd'), ("force", 'f'), ("verbose", 'v')], false⟩
  withOptions 1 o arguments fun flags names => do
    let has (c : Char) : Bool := Flag.given flags c
    if names.isEmpty && !has 'f' then misuse "missing operand".toList 1
    else names.forM (removeOne (has 'r' || has 'R') (has 'd') (has 'v') (has 'f'))

def unlink (arguments : List Octets) : Work Unit := do
  withOptions 1 ⟨"", "", [], false⟩ arguments fun _ names => do
    match names with
    | [] => misuse "missing operand".toList 1
    | [name] =>
        let tree := (← get).tree
        let fail (reason : String) := complain (failing "cannot unlink " name reason) 1
        match slot tree name with
        | .error reason => fail reason
        | .ok (_, none) => fail WalkFault.missing.reason
        | .ok (_, some .folder) => fail "Is a directory"
        | .ok (place, some _) => setTree (without tree place)
    | _ :: extra :: _ => misuse ("extra operand ".toList ++ Octets.quoted extra) 1

def goals (folder : Option Octets) (alone : Bool) (names : List Octets) :
    Work (List (Octets × Octets)) := do
  let tree := (← get).tree
  let into (folder : Octets) (sources : List Octets) : List (Octets × Octets) :=
    sources.map fun name => (name, inside folder (lastPiece name))
  let noFolder (name : Octets) : Work (List (Octets × Octets)) := do
    let reason :=
      match tree.find (pathOf name) with
      | .error fault => fault.reason
      | .ok _ => WalkFault.notFolder.reason
    complain (failing (if folder.isSome then "target directory " else "target ") name reason) 1
    return []
  match folder, names with
  | _, [] =>
      misuse "missing file operand".toList 1
      return []
  | some folder, _ => if isFolderAt tree folder then return into folder names else noFolder folder
  | none, [name] =>
      misuse ("missing destination file operand after ".toList ++ Octets.quoted name) 1
      return []
  | none, [source, goal] =>
      if isFolderAt tree goal && !alone then return into goal [source] else return [(source, goal)]
  | none, _ :: _ :: extra :: _ =>
      let goal := names.getLast?.getD []
      if alone then
        misuse ("extra operand ".toList ++ Octets.quoted extra) 1
        return []
      else if isFolderAt tree goal then return into goal names.dropLast
      else noFolder goal

def copied (entry : Entry) : Entry :=
  match entry with
  | .file .. | .link _ | .folder => entry
  | .bare | .sink | .zeros | .full => .file [] false
  | .tool _ => .file [] true

def copyFolder (source goal : Octets) (origin : FilePlace) : Work Unit := do
  let tree := (← get).tree
  match slot tree goal with
  | .error reason => complain (failing "cannot create directory " goal reason) 1
  | .ok (place, found) =>
      let isFolder := isFolderAt tree goal
      if found.isSome && !isFolder then
        complain ("cannot overwrite non-directory ".toList ++ Octets.quoted goal ++
          " with directory ".toList ++ Octets.quoted source) 1
      else if origin.isPrefixOf place then
        complain ("cannot copy a directory, ".toList ++ Octets.quoted source ++
          ", into itself, ".toList ++ Octets.quoted goal) 1
      else
        let place := ((tree.find (pathOf goal)).toOption.map fun e => e.1).getD place
        let found := (below tree origin).map fun (rest, entry) => (rest, copied entry)
        let found := found.filter fun (rest, entry) =>
          entry != .folder || (tree.entry? (place ++ rest)).isNone
        setTree (graft tree place found)

def copyOne (recursive links kept spoken : Bool) (source goal : Octets) : Work Unit := do
  let tree := (← get).tree
  let path := pathOf source
  let found : Except WalkFault (FilePlace × Entry) :=
    if links then tree.findOwn path else tree.find path
  match found with
  | .error fault => complain (failing "cannot stat " source fault.reason) 1
  | .ok (place, .folder) =>
      if recursive then copyFolder source goal place
      else
        complain ("-r not specified; omitting directory ".toList ++ Octets.quoted source) 1
  | .ok (place, entry) =>
      let isThere := (tree.find (pathOf goal)).toOption
      if kept && isThere.isSome then return ()
      else if (isThere.map fun e => e.1) = some place then
        complain (Octets.quoted source ++ " and ".toList ++ Octets.quoted goal ++
          " are the same file".toList) 1
      else if (isThere.map fun e => e.2) = some .folder then
        complain ("cannot overwrite directory ".toList ++ Octets.quoted goal ++
          " with non-directory".toList) 1
      else if goal.getLast? = some '/' then
        complain (failing "cannot create regular file " goal WalkFault.notFolder.reason) 1
      else
        let fail (reason : String) :=
          complain (failing "cannot create regular file " goal reason) 1
        let octets := (readFile tree source).toOption.getD []
        match entry, tree.findNew (pathOf goal) with
        | _, .error fault => fail fault.reason
        | .link target, .ok place => setTree (tree.put place (.link target))
        | _, .ok place =>
            let executable :=
              match entry with
              | .file _ executable => executable
              | .tool _ => true
              | _ => false
            if isThere.isSome then
              match writeFile tree goal octets with
              | .ok tree => setTree tree
              | .error reason => fail reason
            else setTree (tree.put place (.file (Octets.toBytes octets) executable))
        if spoken then putLine (Octets.quoted source ++ " -> ".toList ++ Octets.quoted goal)

def copyOptions : Options :=
  ⟨"rRapfindvTLPHlsux", "tS", [("recursive", 'r'), ("archive", 'a'), ("force", 'f'),
    ("no-clobber", 'n'), ("no-dereference", 'P'), ("dereference", 'L'), ("verbose", 'v'),
    ("no-target-directory", 'T'), ("target-directory", 't')], false⟩

def cp (arguments : List Octets) : Work Unit := do
  withOptions 1 copyOptions arguments fun flags names => do
    let has (c : Char) : Bool := Flag.given flags c
    let recursive := has 'r' || has 'R' || has 'a'
    let links := (recursive || has 'd' || has 'P') && !has 'L'
    if has 'n' then
      report ("warning: behavior of -n is non-portable and may change in future; " ++
        "use --update=none instead").toList
    for (source, goal) in ← goals (Flag.last? flags 't') (has 'T') names do
      copyOne recursive links (has 'n') (has 'v') source goal

def moveOne (kept spoken : Bool) (source goal : Octets) : Work Unit := do
  let tree := (← get).tree
  let cannot (verb reason : String) :=
    complain (verb.toList ++ Octets.quoted source ++ " to ".toList ++ Octets.quoted goal ++
      ": ".toList ++ reason.toList) 1
  let move (place next : FilePlace) : Work Unit := do
    setTree (graft (without (without tree next) place) next (below tree place))
    if spoken then
      putLine ("renamed ".toList ++ Octets.quoted source ++ " -> ".toList ++ Octets.quoted goal)
  match slot tree source, slot tree goal with
  | .error reason, _ => complain (failing "cannot stat " source reason) 1
  | .ok (_, none), _ =>
      complain (failing "cannot stat " source WalkFault.missing.reason) 1
  | _, .error reason => cannot "cannot move " reason
  | .ok (place, some entry), .ok (next, found) =>
      if place = next then
        complain (Octets.quoted source ++ " and ".toList ++ Octets.quoted goal ++
          " are the same file".toList) 1
      else if kept && found.isSome then return ()
      else if entry = .folder then
        if place.isPrefixOf next then
          complain ("cannot move ".toList ++ Octets.quoted source ++
            " to a subdirectory of itself, ".toList ++ Octets.quoted goal) 1
        else if found = some .folder && !(tree.names next).isEmpty then
          complain (failing "cannot overwrite " goal "Directory not empty") 1
        else if found.isSome && found != some .folder then
          complain ("cannot overwrite non-directory ".toList ++ Octets.quoted goal ++
            " with directory ".toList ++ Octets.quoted source) 1
        else move place next
      else if found = some .folder then
        complain ("cannot overwrite directory ".toList ++ Octets.quoted goal ++
          " with non-directory".toList) 1
      else if goal.getLast? = some '/' then cannot "cannot move " WalkFault.notFolder.reason
      else move place next

def mv (arguments : List Octets) : Work Unit := do
  let o : Options :=
    ⟨"finvTu", "tS", [("force", 'f'), ("no-clobber", 'n'), ("verbose", 'v'),
      ("no-target-directory", 'T'), ("target-directory", 't')], false⟩
  withOptions 1 o arguments fun flags names => do
    let has (c : Char) : Bool := Flag.given flags c
    for (source, goal) in ← goals (Flag.last? flags 't') (has 'T') names do
      moveOne (has 'n') (has 'v') source goal

def linkOne (symbolic forced spoken : Bool) (target goal : Octets) : Work Unit := do
  let tree := (← get).tree
  let verb := if symbolic then "failed to create symbolic link " else "failed to create hard link "
  let fail (reason : String) := complain (failing verb goal reason) 1
  let make (tree : FileTree) (place : FilePlace) (entry : Entry) : Work Unit := do
    setTree (tree.put place entry)
    let arrow := if symbolic then " -> " else " => "
    if spoken then putLine (Octets.quoted goal ++ arrow.toList ++ Octets.quoted target)
  let entry : Except Octets Entry :=
    if symbolic then .ok (.link (Octets.toBytes target))
    else
      match tree.findOwn (pathOf target) with
      | .error fault => .error (failing "failed to access " target fault.reason)
      | .ok (_, .folder) =>
          .error (Octets.named target ++ ": hard link not allowed for directory".toList)
      | .ok (_, entry) => .ok entry
  match entry, slot tree goal with
  | .error text, _ => complain text 1
  | .ok _, .error reason => fail reason
  | .ok entry, .ok (place, none) => make tree place entry
  | .ok entry, .ok (place, some there) =>
      if !forced then fail "File exists"
      else if there = .folder then
        complain (Octets.named goal ++ ": cannot overwrite directory".toList) 1
      else make tree place entry

def ln (arguments : List Octets) : Work Unit := do
  let o : Options :=
    ⟨"sfnTvirLP", "tS", [("symbolic", 's'), ("force", 'f'), ("no-dereference", 'n'),
      ("no-target-directory", 'T'), ("target-directory", 't'), ("verbose", 'v')], false⟩
  withOptions 1 o arguments fun flags names => do
    let has (c : Char) : Bool := Flag.given flags c
    let make := linkOne (has 's') (has 'f') (has 'v')
    match names with
    | [target] =>
        if (Flag.last? flags 't').isNone then make target (lastPiece target)
        else
          for (target, goal) in ← goals (Flag.last? flags 't') false names do make target goal
    | _ =>
        let isLink :=
          match (← get).tree.findOwn (pathOf (names.getLast?.getD [])) with
          | .ok (_, .link _) => true
          | _ => false
        let alone := has 'T' || (has 'n' && isLink)
        for (target, goal) in ← goals (Flag.last? flags 't') alone names do make target goal

def touchOne (kept : Bool) (name : Octets) : Work Unit := do
  let tree := (← get).tree
  match tree.find (pathOf name) with
  | .ok _ => return ()
  | .error _ =>
      if kept then return ()
      else
        match tree.findNew (pathOf name) with
        | .ok place => setTree (tree.put place (.file [] false))
        | .error fault => complain (failing "cannot touch " name fault.reason) 1

def touch (arguments : List Octets) : Work Unit := do
  let o : Options :=
    ⟨"acmhf", "drt", [("no-create", 'c'), ("date", 'd'), ("reference", 'r')], false⟩
  withOptions 1 o arguments fun flags names => do
    if names.isEmpty then misuse "missing file operand".toList 1
    else names.forM (touchOne (Flag.given flags 'c'))

structure RunRights where
  owner : Bool
  group : Bool
  others : Bool

def RunRights.change (r : RunRights) (folder : Bool) (clause : Octets) : Option RunRights :=
  let users := clause.takeWhile fun c => "ugoa".toList.contains c
  let applies (user : Char) : Bool :=
    users.isEmpty || users.contains 'a' || users.contains user
  match clause.drop users.length with
  | sign :: letters =>
      if "+-=".toList.contains sign && letters.all fun c => "rwxXst".toList.contains c then
        let run := letters.contains 'x' ||
          (letters.contains 'X' && (folder || r.owner || r.group || r.others))
        let next (user : Char) (old : Bool) : Bool :=
          if !applies user then old
          else
            match sign with
            | '+' => old || run
            | '-' => old && !run
            | _ => run
        some ⟨next 'u' r.owner, next 'g' r.group, next 'o' r.others⟩
      else none
  | [] => none

def isRunWith (executable : Bool) (mode : Octets) : Option Bool :=
  if !mode.isEmpty && mode.all Octets.isOctal && mode.length ≤ 5 then
    let bits := Octets.valueIn 8 mode
    some (bits % 2 = 1 || bits / 8 % 2 = 1 || bits / 64 % 2 = 1)
  else
    let start : RunRights := ⟨executable, executable, executable⟩
    let after := (Octets.pieces ',' mode).foldl
      (fun rights clause => rights.bind fun r => r.change false clause) (some start)
    after.map fun r => r.owner || r.group || r.others

def isLessMode (argument : Octets) : Bool :=
  match argument with
  | '-' :: c :: rest => (c :: rest).all fun c => "rwxXst,+-=ugoa".toList.contains c
  | _ => false

def changeMode (recursive : Bool) (mode name : Octets) : Work Unit := do
  let tree := (← get).tree
  match tree.find (pathOf name) with
  | .error fault =>
      match tree.findOwn (pathOf name) with
      | .ok _ =>
          complain ("cannot operate on dangling symlink ".toList ++ Octets.quoted name) 1
      | .error _ => complain (failing "cannot access " name fault.reason) 1
  | .ok (place, entry) =>
      let change (entry : Entry) : Entry :=
        match entry with
        | .file bytes executable => .file bytes ((isRunWith executable mode).getD executable)
        | other => other
      if entry = .folder && recursive then
        setTree (graft tree place ((below tree place).map fun (rest, e) => (rest, change e)))
      else if entry ≠ .folder then setTree (tree.put place (change entry))
      else return ()

def chmod (arguments : List Octets) : Work Unit := do
  let less := arguments.find? isLessMode
  let arguments := match less with
    | some mode => arguments.erase mode
    | none => arguments
  let o : Options :=
    ⟨"Rvcf", "", [("recursive", 'R'), ("verbose", 'v'), ("changes", 'c'), ("silent", 'f')], false⟩
  withOptions 1 o arguments fun flags names => do
    let names := less.toList ++ names
    match names with
    | [] => misuse "missing operand".toList 1
    | [mode] => misuse ("missing operand after ".toList ++ Octets.quoted mode) 1
    | mode :: names =>
        if (isRunWith false mode).isNone then
          misuse ("invalid mode: ".toList ++ Octets.quoted mode) 1
        else names.forM (changeMode (Flag.given flags 'R') mode)

def newLength? (text : Octets) (length : Nat) : Option Nat :=
  let (sign, body) :=
    match text with
    | c :: rest => if "+-<>/%".toList.contains c then (some c, rest) else (none, text)
    | [] => (none, [])
  let digits := body.takeWhile Char.isDigit
  let unit := body.drop digits.length
  let factor : Option Nat :=
    match String.ofList unit with
    | "" => some 1
    | "K" | "k" | "KiB" => some 1024
    | "KB" => some 1000
    | "M" | "MiB" => some 1048576
    | "MB" => some 1000000
    | _ => none
  if digits.isEmpty then none
  else
    factor.map fun f =>
      let n := f * Octets.value digits
      match sign with
      | some '+' => length + n
      | some '-' => length - n
      | some '<' => min length n
      | some '>' => max length n
      | some '/' => if n = 0 then length else length / n * n
      | some '%' => if n = 0 then length else (length + n - 1) / n * n
      | _ => n

def truncate (arguments : List Octets) : Work Unit := do
  withOptions 1 ⟨"co", "sr", [("size", 's'), ("no-create", 'c'), ("reference", 'r')],
    false⟩ arguments fun flags names => do
      match Flag.last? flags 's', names with
      | none, _ =>
          misuse "you must specify either \x27--size\x27 or \x27--reference\x27".toList 1
      | some _, [] => misuse "missing file operand".toList 1
      | some text, _ =>
          if (newLength? text 0).isNone then
            complain ("Invalid number: ".toList ++ Octets.quoted text) 1
          else
            for name in names do
              let tree := (← get).tree
              let found := readFile tree name
              let octets := found.toOption.getD []
              let length := (newLength? text octets.length).getD 0
              let next := octets.take length ++ List.replicate (length - octets.length) '\x00'
              let skipped := Flag.given flags 'c' && (tree.find (pathOf name)).toOption.isNone
              if skipped then pure ()
              else
                match writeFile tree name next with
                | .ok tree => setTree tree
                | .error reason =>
                    complain ("cannot open ".toList ++ Octets.quoted name ++
                      " for writing: ".toList ++ reason.toList) 1

def filled (template : Octets) (number : Nat) : Octets :=
  let gap := (template.reverse.takeWhile (· == 'X')).length
  let digits := Octets.padLeft 'a' gap (Octets.ofNat number)
  template.take (template.length - gap) ++ digits.drop (digits.length - gap)

def firstFree (tree : FileTree) (template : Octets) : Nat → Nat → Octets
  | 0, number => filled template number
  | fuel + 1, number =>
      let name := filled template number
      match tree.findOwn (pathOf name) with
      | .ok _ => firstFree tree template fuel (number + 1)
      | .error _ => name

def mktemp (arguments : List Octets) : Work Unit := do
  let o : Options :=
    ⟨"duqt", "p", [("directory", 'd'), ("dry-run", 'u'), ("quiet", 'q'), ("tmpdir", 'p')], false⟩
  withOptions 1 o arguments fun flags names => do
    match names with
    | _ :: _ :: _ => misuse "too many templates".toList 1
    | _ =>
        let d ← get
        let has (c : Char) : Bool := Flag.given flags c
        let template := names.headD "tmp.XXXXXXXXXX".toList
        let usual := (d.environment.lookup "TMPDIR".toList).getD "/tmp".toList
        let folder := (Flag.last? flags 'p').getD usual
        let apart := names.isEmpty || has 'p' || has 't'
        if (template.reverse.takeWhile (· == 'X')).length < 3 then
          complain ("too few X\x27s in template ".toList ++ Octets.quoted template) 1
        else
          let template := if apart then inside folder template else template
          let name := firstFree d.tree template 10000 1
          match slot d.tree name with
          | .error reason =>
              let word := if has 'd' then "directory" else "file"
              complain (("failed to create " ++ word ++ " via template ").toList ++
                Octets.quoted template ++ ": ".toList ++ reason.toList) 1
          | .ok (place, _) =>
              let entry : Entry := if has 'd' then .folder else .file [] false
              if has 'u' then pure () else setTree (d.tree.put place entry)
              putLine name

end LessonAudit.Program.Tool
