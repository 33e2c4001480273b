import LessonAudit.Path
import LessonAudit.Text.Regex
set_option autoImplicit false

namespace LessonAudit

open Text (Regex)

inductive Role where
  | nonTemplated
  | index
  | reference
  | episode
  | generic
deriving DecidableEq, Repr

def episodeFolder : String := "_episodes"

def Path.slashed (p : Path) : List Char :=
  p.text.toList.map fun c => if c = '\\' then '/' else c

namespace Role

def all : List Role := [nonTemplated, index, reference, episode, generic]

def text : Role → String
  | nonTemplated => "non-templated page"
  | index => "index page"
  | reference => "reference page"
  | episode => "episode"
  | generic => "generic page"

def needsHeader : Role → Bool
  | nonTemplated => false
  | _ => true

def layout? : Role → Option String
  | nonTemplated => none
  | index => some "lesson_homepage"
  | reference => some "reference"
  | episode => none
  | generic => some "page"

-- `(?:^|/)NAME$`
def named (name : String) : Regex :=
  .seq (.startOr '/') (.seq (.ofChars name.toList) .finish)

-- `(?:^|/)_episodes/.*\.md$`
def belowEpisodes : Regex :=
  .seq (.startOr '/') (.seq (.ofChars episodeFolder.toList) (.seq (.ofChars ['/'])
    (.seq (.run (· != '\n')) (.seq (.ofChars ".md".toList) .finish))))

-- `\.md$`
def extension : Regex :=
  .seq (.ofChars ".md".toList) .finish

def rules : List (Regex × Role) :=
  [(named "CONTRIBUTING.md", nonTemplated), (named "README.md", nonTemplated),
    (named "index.md", index), (named "reference.md", reference), (belowEpisodes, episode),
    (extension, generic)]

/-- The role of a page by its text below the root of the lesson. The first rule that finds a match
counts. -/
def ofText? (text : List Char) : Option Role :=
  (rules.find? fun rule => rule.1.isMatch text).map fun rule => rule.2

def of? (root path : Path) : Option Role :=
  ofText? ((path.below? root).getD path).slashed

end Role
end LessonAudit
