import LessonAudit.Program.Regex
import LessonAudit.Program.Rule.Value
set_option autoImplicit false

namespace LessonAudit.Program.Rule

inductive Operator where
  | add
  | sub
  | mul
  | div
  | mod
  | power
  | join
  | less
  | atMost
  | equal
deriving DecidableEq, Repr

inductive Origin where
  | main
  | file
  | command
deriving DecidableEq, Repr

inductive Outlet where
  | fresh
  | append
  | command
deriving DecidableEq, Repr

inductive Expr where
  | number (x : Float)
  | text (t : Octets)
  | pattern (r : Regex)
  | named (name : Octets)
  | element (array : Octets) (keys : List Expr)
  | field (index : Expr)
  | assign (target : Expr) (change : Option Operator) (value : Expr)
  | step (target : Expr) (up before : Bool)
  | negative (e : Expr)
  | positive (e : Expr)
  | negation (e : Expr)
  | binary (o : Operator) (first second : Expr)
  | matching (negated : Bool) (text pattern : Expr)
  | both (first second : Expr)
  | either (first second : Expr)
  | choice (condition first second : Expr)
  | holds (array : Octets) (keys : List Expr)
  | builtin (name : String) (arguments : List Expr)
  | call (name : Octets) (arguments : List Expr)
  | line (origin : Origin) (source target : Option Expr)
  | grouped (e : Expr)
deriving Inhabited

inductive Statement where
  | expr (e : Expr)
  | print (formatted : Bool) (arguments : List Expr) (outlet : Option (Outlet × Expr))
  | block (body : List Statement)
  | branch (condition : Expr) (first : Statement) (second : Option Statement)
  | loop (before : Option Statement) (condition : Option Expr) (after : Option Statement)
      (body : Statement)
  | loopBehind (body : Statement) (condition : Expr)
  | each (name array : Octets) (body : Statement)
  | delete (array : Octets) (keys : Option (List Expr))
  | leaveLoop
  | nextRound
  | nextLine
  | nextFile
  | exit (status : Option Expr)
  | back (value : Option Expr)
deriving Inhabited

inductive Occasion where
  | first
  | last
  | always
  | when (condition : Expr)
  | between (start stop : Expr)

structure Function where
  name : Octets
  parameters : List Octets
  body : List Statement

structure Entry where
  occasion : Occasion
  body : Option (List Statement)

structure Script where
  entries : List Entry
  functions : List Function

end LessonAudit.Program.Rule
