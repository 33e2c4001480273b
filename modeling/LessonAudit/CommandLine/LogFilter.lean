import LessonAudit.Event
import LessonAudit.Text.Pieces
set_option autoImplicit false

namespace LessonAudit

structure LogRule where
  target : List Char
  level : Nat
deriving DecidableEq, Repr

structure LogFilter where
  rules : List LogRule
deriving DecidableEq, Repr

namespace LogFilter

def levelNames : List (String × Nat) :=
  [("off", 0), ("error", 1), ("warn", 2), ("info", 3), ("debug", 4), ("trace", 5), ("0", 0),
    ("1", 1), ("2", 2), ("3", 3), ("4", 4), ("5", 5)]

def level? (word : List Char) : Option Nat :=
  levelNames.lookup (String.ofList (word.map Char.toLower))

def isTargetChar (c : Char) : Bool :=
  c.isAlphanum || c == '_' || c == ':' || c == '-'

def rule? (word : List Char) : Option LogRule :=
  match level? word with
  | some level => some ⟨[], level⟩
  | none =>
      let target := word.takeWhile isTargetChar
      if target.isEmpty then none
      else
        match word.dropWhile isTargetChar with
        | [] | ['='] => some ⟨target, 5⟩
        | '=' :: level => (level? level).map fun n => ⟨target, n⟩
        | _ => none

def ofText? (text : String) : Option LogFilter :=
  let words := (Text.pieces ',' text.toList).filter fun word => !word.isEmpty
  (words.mapM rule?).map fun rules => ⟨if rules.isEmpty then [⟨[], 1⟩] else rules⟩

def levelName (verbosity : Nat) : String :=
  match verbosity with
  | 0 => "warn"
  | 1 => "info"
  | 2 => "debug"
  | _ => "trace"

def ofVerbosity (verbosity : Nat) : LogFilter :=
  ⟨[⟨[], (level? (levelName verbosity).toList).getD 0⟩]⟩

def stronger (a b : LogRule) : LogRule :=
  if a.target.length ≤ b.target.length then b else a

def shows (f : LogFilter) (e : Event) : Bool :=
  let fitting := f.rules.filter fun r => r.target.isPrefixOf e.target.toList
  decide (e.level.rank ≤ (fitting.foldl stronger ⟨[], 0⟩).level)

def choose (asked : Option String) (verbosity : Nat) : LogFilter :=
  (asked.bind ofText?).getD (ofVerbosity verbosity)

end LogFilter
end LessonAudit
