import LessonAudit.Document
import LessonAudit.Policy
import LessonAudit.Tree.Pattern
set_option autoImplicit false

namespace LessonAudit.Document

open LessonAudit.Tree (Pattern)

def checkHeader (d : Document) (role : Role) (j : Journal) : Journal :=
  let place := some (Location.whole d.path)
  if !role.needsHeader then j.check d.metadata.isNone place "Unexpected YAML header"
  else
    match d.metadata, role.layout? with
    | none, _ => j.add place "Missing metadata entirely"
    | some _, none => j
    | some members, some layout => j.checkField place "metadata" members "layout" layout

def checkClasses (d : Document) (kind : String) (known : List String) (j : Journal) : Journal :=
  (d.tree.findAll (Pattern.ofKind kind)).foldl
    (fun j n =>
      let found := n.attrValue "class"
      j.check (found.any fun name => known.contains name) (some (d.locationOf n))
        ("Unknown or missing " ++ kind ++ " type " ++ found.getD "(none)"))
    j

def checkQuotes (d : Document) (policy : Policy) (j : Journal) : Journal :=
  d.checkClasses "blockquote" policy.quoteClasses j

def checkCode (d : Document) (policy : Policy) (j : Journal) : Journal :=
  d.checkClasses "codeblock" policy.codeClasses j

def check (d : Document) (role : Role) (policy : Policy) (j : Journal) : Journal :=
  d.checkCode policy (d.checkQuotes policy (d.checkHeader role j))

end LessonAudit.Document
