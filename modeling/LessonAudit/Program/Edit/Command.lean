import LessonAudit.Program.Regex
set_option autoImplicit false

namespace LessonAudit.Program.Edit

structure Pattern where
  regex : Regex
  dialect : Regex.Dialect

inductive Address where
  | line (number : Nat)
  | step (first step : Nat)
  | last
  | matching (pattern : Option Pattern)

inductive RangeEnd where
  | line (number : Nat)
  | last
  | matching (pattern : Option Pattern)
  | after (count : Nat)
  | multiple (count : Nat)

structure Scope where
  start : Option Address
  stop : Option RangeEnd
  inverse : Bool

def Scope.all : Scope := ⟨none, none, false⟩

inductive Casing where
  | upper
  | lower
deriving DecidableEq, Repr

inductive Piece where
  | text (octets : Octets)
  | group (number : Nat)
  | casing (casing : Option Casing)
  | nextCasing (casing : Casing)
deriving DecidableEq, Repr

structure Substitution where
  pattern : Option Pattern
  pieces : List Piece
  number : Nat
  global : Bool
  shown : Bool
  file : Option Octets

inductive Action where
  | block (behind : Nat)
  | nothing
  | append (text : Octets)
  | insert (text : Octets)
  | change (text : Octets)
  | branch (goal : Option Nat)
  | branchIfDone (goal : Option Nat)
  | branchUnlessDone (goal : Option Nat)
  | delete
  | deleteFirst
  | showNumber
  | showName
  | showEscaped (width : Option Nat)
  | get
  | getAppend
  | hold
  | holdAppend
  | exchange
  | next
  | nextAppend
  | print
  | printFirst
  | quit (status : Nat)
  | quitSilent (status : Nat)
  | readFile (name : Octets)
  | readLine (name : Octets)
  | write (name : Octets)
  | writeFirst (name : Octets)
  | substitute (s : Substitution)
  | translate (table : List (Char × Char))
  | clear

structure Command where
  scope : Scope
  action : Action

structure Recipe where
  commands : Array Command
  files : List Octets
  silent : Bool

end LessonAudit.Program.Edit
