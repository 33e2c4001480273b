import LessonAudit.Role
set_option autoImplicit false

namespace LessonAudit

inductive Level where
  | error
  | warn
  | info
  | debug
  | trace
deriving DecidableEq, Repr

inductive Event where
  | started (root parser : Path)
  | folderAbsent (folder : Path)
  | discovered (count : Nat) (root : Path)
  | optionalMissing (path : Path)
  | renderFailed (path : Path) (error : String)
  | checking (path : Path) (role : Role)
  | finished (documents findings : Nat)
deriving DecidableEq, Repr

namespace Level

def rank : Level → Nat
  | error => 1
  | warn => 2
  | info => 3
  | debug => 4
  | trace => 5

def text : Level → String
  | error => "ERROR"
  | warn => "WARN"
  | info => "INFO"
  | debug => "DEBUG"
  | trace => "TRACE"

end Level

namespace Event

def level : Event → Level
  | started .. => .info
  | folderAbsent .. => .debug
  | discovered .. => .debug
  | optionalMissing .. => .warn
  | renderFailed .. => .error
  | checking .. => .debug
  | finished .. => .info

def target : Event → String
  | started .. => "lesson_check_cli::cli"
  | folderAbsent .. => "lesson_check::discover"
  | discovered .. => "lesson_check::discover"
  | optionalMissing .. => "lesson_check::fileset"
  | renderFailed .. => "lesson_check::document"
  | checking .. => "lesson_check"
  | finished .. => "lesson_check_cli::cli"

def message : Event → String
  | started .. => "Checking lesson"
  | folderAbsent .. => "Source directory absent, skipping"
  | discovered .. => "Discovered documents"
  | optionalMissing .. => "Optional lesson file is missing"
  | renderFailed .. => "Renderer failed"
  | checking .. => "Checking document"
  | finished .. => "Check finished"

def facts : Event → List (String × String)
  | started root parser => [("source", root.text), ("parser", parser.text)]
  | folderAbsent folder => [("dir", folder.text)]
  | discovered count root => [("count", toString count), ("root", root.text)]
  | optionalMissing path => [("path", path.text)]
  | renderFailed path error => [("path", path.text), ("error", error)]
  | checking path role => [("path", path.text), ("role", role.text)]
  | finished documents findings =>
      [("documents", toString documents), ("findings", toString findings)]

def text (e : Event) : String :=
  String.join (e.message :: e.facts.map fun (name, value) => " " ++ name ++ "=" ++ value)

end Event
end LessonAudit
