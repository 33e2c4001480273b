set_option autoImplicit false

namespace LessonAudit.Text

/-- The expressions by which file names are read. `run` takes as many characters as it can, and `^`
and `$` stand for the two ends of the whole text. -/
inductive Regex where
  | empty
  | start
  | finish
  | char (fits : Char → Bool)
  | run (fits : Char → Bool)
  | group (r : Regex)
  | seq (r s : Regex)
  | alt (r s : Regex)

namespace Regex

structure Place where
  before : List Char
  after : List Char

structure Match where
  place : Place
  groups : List (List Char)

def runs (fits : Char → Bool) (before : List Char) : List Char → List Place
  | [] => [⟨before, []⟩]
  | c :: after =>
      (if fits c then runs fits (before ++ [c]) after else []) ++ [⟨before, c :: after⟩]

/-- Where a match from a place can end, the preferred one first. -/
def endings : Regex → Place → List Match
  | empty, p => [⟨p, []⟩]
  | start, p => if p.before.isEmpty then [⟨p, []⟩] else []
  | finish, p => if p.after.isEmpty then [⟨p, []⟩] else []
  | char fits, p =>
      match p.after with
      | [] => []
      | c :: after => if fits c then [⟨⟨p.before ++ [c], after⟩, []⟩] else []
  | run fits, p => (runs fits p.before p.after).map fun q => ⟨q, []⟩
  | group r, p =>
      (r.endings p).map fun m => ⟨m.place, m.place.before.drop p.before.length :: m.groups⟩
  | seq r s, p =>
      (r.endings p).flatMap fun m =>
        (s.endings m.place).map fun n => ⟨n.place, m.groups ++ n.groups⟩
  | alt r s, p => r.endings p ++ s.endings p

def places (before : List Char) : List Char → List Place
  | [] => [⟨before, []⟩]
  | c :: after => ⟨before, c :: after⟩ :: places (before ++ [c]) after

/-- The groups of the leftmost match. -/
def captures? (r : Regex) (text : List Char) : Option (List (List Char)) :=
  ((places [] text).flatMap r.endings).head?.map Match.groups

def isMatch (r : Regex) (text : List Char) : Bool :=
  (r.captures? text).isSome

def ofChars : List Char → Regex
  | [] => empty
  | c :: rest => seq (char (· == c)) (ofChars rest)

/-- The start of the text or a mark, `(?:^|/)` for the slash. -/
def startOr (mark : Char) : Regex :=
  alt start (char (· == mark))

end Regex
end LessonAudit.Text
