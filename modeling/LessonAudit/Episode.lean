import LessonAudit.Journal
import LessonAudit.Text.Quoted
import LessonAudit.Text.WordChar
set_option autoImplicit false

namespace LessonAudit.Episode

open Text (Regex)

def isAsciiDigit (c : Char) : Bool :=
  decide ('0' ≤ c) && decide (c ≤ '9')

def isSlugChar (c : Char) : Bool :=
  c == '-' || Text.isWordChar c

-- `(?:^|/)_episodes/([0-9]{2})-[-\w]+\.md$`
def fileName : Regex :=
  .seq (.startOr '/') (.seq (.ofChars episodeFolder.toList) (.seq (.ofChars ['/'])
    (.seq (.group (.seq (.char isAsciiDigit) (.char isAsciiDigit)))
      (.seq (.ofChars ['-']) (.seq (.char isSlugChar) (.seq (.run isSlugChar)
        (.seq (.ofChars ".md".toList) .finish)))))))

def textNumber? (text : List Char) : Option (List Char) :=
  (fileName.captures? text).bind List.head?

def number? (path : Path) : Option String :=
  (textNumber? path.slashed).map String.ofList

def natural? (text : String) : Option Nat :=
  let digits :=
    match text.toList with
    | '+' :: rest => rest
    | cs => cs
  if digits.isEmpty || !digits.all isAsciiDigit then none
  else
    let n := digits.foldl (fun n c => 10 * n + (c.toNat - 48)) 0
    if n < 0x100000000 then some n else none

def consecutive (first : Nat) : List Nat → Bool
  | [] => true
  | n :: more => n == first && consecutive (first + 1) more

def shownTexts (texts : List String) : String :=
  Text.listed (texts.map Text.quoted)

def shownNumbers (numbers : List Nat) : String :=
  Text.listed (numbers.map fun n => toString n)

/-- Checks that no number comes twice, that each is one, and that together they run from one on.
A number that comes twice leaves no gap. -/
def checkNumbers (texts : List String) (j : Journal) : Journal :=
  let sorted := texts.mergeSort fun a b => decide (a ≤ b)
  let distinct := sorted.eraseReps
  let unread := texts.filter fun t => (natural? t).isNone
  let numbers := (texts.filterMap natural?).mergeSort fun a b => decide (a ≤ b)
  let j := j.check (sorted.length == distinct.length) none
    ("Duplicate episode numbers " ++ shownTexts sorted ++ " vs " ++ shownTexts distinct)
  let j := j.check unread.isEmpty none ("Episode numbers are not decimal " ++ shownTexts unread)
  j.check (consecutive 1 numbers.eraseReps) none
    ("Missing or non-consecutive episode numbers " ++ shownNumbers numbers)

end LessonAudit.Episode
