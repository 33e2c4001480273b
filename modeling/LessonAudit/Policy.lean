import LessonAudit.Path
import LessonAudit.Role
set_option autoImplicit false

namespace LessonAudit

structure Requirement where
  mandatory : Bool
  template : String
deriving DecidableEq, Repr

structure Policy where
  quoteClasses : List String
  codeClasses : List String
  required : List Requirement
deriving Repr

structure Source where
  root : Path
  limit : UInt64
deriving DecidableEq, Repr

def extrasFolder : String := "_extras"

def sourceFolders : List String := ["", episodeFolder, extrasFolder]

def Requirement.resolve (r : Requirement) (root : Path) : Path :=
  ⟨Text.Utf8.encode (String.ofList
    (r.template.toList.flatMap fun c => if c = '%' then root.text.toList else [c]))⟩

namespace Policy

def standard : Policy where
  quoteClasses :=
    ["callout", "challenge", "checklist", "keypoints", "objectives", "prereq", "solution",
      "testimonial"]
  codeClasses := ["error", "output", "source"]
  required :=
    [⟨true, "%/CONDUCT.md"⟩, ⟨false, "%/CONTRIBUTING.md"⟩, ⟨true, "%/LICENSE.md"⟩,
      ⟨false, "%/README.md"⟩, ⟨true, "%/_extras/discuss.md"⟩, ⟨true, "%/_extras/figures.md"⟩,
      ⟨true, "%/_extras/guide.md"⟩, ⟨true, "%/index.md"⟩, ⟨true, "%/reference.md"⟩,
      ⟨true, "%/setup.md"⟩]

end Policy

namespace Source

def standard : Source := ⟨⟨"."⟩, 10485760⟩

def ofRoot (root : Path) : Source :=
  { standard with root := root }

end Source
end LessonAudit
