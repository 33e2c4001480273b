import LessonAudit.Finding
set_option autoImplicit false

namespace LessonAudit

open Json (Written)

structure Report where
  found : Nat
  checked : Nat
  findings : List Finding
deriving DecidableEq, Repr

inductive Format where
  | human
  | json
deriving DecidableEq, Repr

inductive ReportFault where
  | malformedPath
deriving DecidableEq, Repr

def ReportFault.message : ReportFault → String
  | malformedPath => "path contains invalid UTF-8 characters"

namespace Report

def ok (r : Report) : Bool :=
  r.findings.isEmpty

def exitStatus (r : Report) : Nat :=
  Finding.exitStatus r.findings

def written (r : Report) : Written :=
  .record
    [("documents_found", .number (.natural r.found)),
      ("documents_checked", .number (.natural r.checked)),
      ("ok", .flag r.ok),
      ("findings", .list (r.findings.map Finding.written))]

def inText (r : Report) : Bool :=
  r.findings.all fun f => f.location.all fun place => place.file.isText

def text (r : Report) : Format → String
  | .human => Finding.lines r.findings
  | .json => r.written.spreadText ++ "\n"

end Report
end LessonAudit
