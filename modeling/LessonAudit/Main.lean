import LessonAudit.CommandLine.Run
import LessonAudit.Program.Launch
set_option autoImplicit false

namespace LessonAudit.Main

structure Folder where
  path : Path
  pages : List (String × Except DiskFault (List UInt8))

def readBytes (path : Path) : IO (Except DiskFault (List UInt8)) := do
  try
    let bytes ← IO.FS.readBinFile path.text
    return .ok bytes.toList
  catch fault => return .error (.unopened (toString fault))

def readFolder (path : Path) : IO (Option Folder) := do
  try
    let place ← IO.FS.realPath path.text
    if path.text = "" || !(← place.isDir) then return none
    let mut pages := []
    for entry in ← place.readDir do
      if Lesson.isPageName entry.fileName && !(← entry.path.isDir) then
        if ← entry.path.pathExists then
          let bytes ← readBytes (path.join entry.fileName)
          pages := (entry.fileName, bytes) :: pages
    return some ⟨path, pages⟩
  catch _ => return none

def diskOf (folders : List Folder) : Disk where
  isFolder path := folders.any fun f => f.path.same path
  isFile path := folders.any fun f => f.pages.any fun page => (f.path.join page.1).same path
  names path :=
    match folders.find? fun f => f.path.same path with
    | some f => f.pages.map fun page => page.1
    | none => []
  bytes path :=
    let found := folders.findSome? fun f =>
      f.pages.findSome? fun page => if (f.path.join page.1).same path then some page.2 else none
    found.getD (.error (.unopened WalkFault.missing.text))

def programs (path : Path) : IO FileTree := do
  match ← readBytes path with
  | .ok bytes => return FileTree.workplace.write path bytes true
  | .error _ => return .workplace

end LessonAudit.Main

open LessonAudit in
def main (words : List String) : IO UInt32 := do
  let asked ← IO.getEnv "RUST_LOG"
  let words := words.map Text.Utf8.encode
  let (disk, tree) ←
    match Arguments.ofWords? words with
    | .error _ => pure (Main.diskOf [], FileTree.workplace)
    | .ok a => do
        let folders ← (Lesson.folders a.source).filterMapM Main.readFolder
        let tree ← if a.parser.text.toList.contains '/' then Main.programs a.parser
          else pure .workplace
        pure (Main.diskOf folders, tree)
  let workshop (program : Path) : Workshop FileTree :=
    { Program.workshop program [] with disk := fun _ => disk }
  let (result, _) := CommandLine.run workshop asked words tree
  IO.print result.stdout
  IO.eprint result.stderr
  return UInt32.ofNat result.code
