import LessonAudit.Episode
import LessonAudit.Policy
set_option autoImplicit false

namespace LessonAudit.Fileset

def checkRequirement (root : Path) (pages : List Path) (j : Journal) (r : Requirement) : Journal :=
  let path := r.resolve root
  if pages.any path.same then j
  else if r.mandatory then j.add none ("Missing required file " ++ path.text)
  else j.log (.optionalMissing path)

def checkRequired (root : Path) (policy : Policy) (pages : List Path) (j : Journal) : Journal :=
  policy.required.foldl (checkRequirement root pages) j

def episodes (root : Path) (pages : List Path) : List Path :=
  pages.filter fun page => page.startsWith (root.join episodeFolder)

def checkNames (root : Path) (pages : List Path) (j : Journal) : Journal :=
  (episodes root pages).foldl
    (fun j page =>
      j.check (Episode.number? page).isSome none
        ("Episode " ++ page.text ++ " has badly-formatted filename"))
    j

def numbers (root : Path) (pages : List Path) : List String :=
  (episodes root pages).filterMap Episode.number?

def check (root : Path) (policy : Policy) (pages : List Path) (j : Journal) : Journal :=
  Episode.checkNumbers (numbers root pages)
    (checkNames root pages (checkRequired root policy pages j))

end LessonAudit.Fileset
