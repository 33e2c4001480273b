import LessonAudit.Header
import LessonAudit.Journal
import LessonAudit.Rendering
set_option autoImplicit false

namespace LessonAudit

open Json (Value)
open LessonAudit.Tree (Node)

/-- A page of a lesson. `headerLines` is what has to be added to a line of the body to make it a
line of the file. -/
structure Document where
  path : Path
  metadata : Option (Dict Value)
  headerLines : Nat
  tree : Node
deriving Repr

namespace Document

variable [Libraries]

def readHeader (path : Path) (raw : Option String) (j : Journal) :
    Option (Dict Value) × Journal :=
  match raw.map Header.metadata? with
  | none => (none, j)
  | some (.ok metadata) => (metadata, j)
  | some (.error fault) => (none, j.add (some (.whole path)) fault.message)

def parse (path : Path) (text : String) (renderer : Renderer) (j : Journal) :
    Option Document × Journal :=
  let split := Header.split text
  let (metadata, j) := readHeader path split.raw j
  match renderer split.body with
  | .ok tree => (some ⟨path, metadata, split.lines, tree⟩, j)
  | .error error =>
      let j := j.log (.renderFailed path error.message)
      (none, j.add (some (.whole path)) ("Unable to render document: " ++ error.message))

def locationOf (d : Document) (n : Node) : Location :=
  match n.location with
  -- a sum of 64 bits, at which a build that checks its sums stops if it is larger
  | some line => .ofLine d.path ((line + d.headerLines) % UInt64.size)
  | none => .whole d.path

end Document
end LessonAudit
