import LessonAudit.Program.Script.Command
set_option autoImplicit false

namespace LessonAudit.Program.Script

structure Fault where
  line : Nat
  text : String
deriving DecidableEq, Repr

def Fault.message (f : Fault) : String :=
  "Syntax error: " ++ f.text

inductive Token where
  | word (w : Word)
  | keyword (text : String)
  | redirect (stream : Option Nat) (sign : String)
  | sign (text : String)
  | newline
  | finish

namespace Token

def shown : Token → String
  | word _ => "word"
  | keyword text => "\"" ++ text ++ "\""
  | redirect .. => "redirection"
  | sign text => "\"" ++ text ++ "\""
  | newline => "newline"
  | finish => "end of file"

def keywords : List String :=
  ["!", "case", "do", "done", "elif", "else", "esac", "fi", "for", "if", "in", "then", "until",
    "while", "\x7b", "\x7d"]

def isSign (t : Token) (text : String) : Bool :=
  match t with
  | sign s => s == text
  | _ => false

def isKeyword (t : Token) (text : String) : Bool :=
  match t with
  | keyword s => s == text
  | _ => false

def isNewline : Token → Bool
  | newline => true
  | _ => false

def isEnd : Token → Bool
  | sign s => s == ")" || s == ";;"
  | keyword s => ["do", "done", "elif", "else", "esac", "fi", "then", "\x7d"].contains s
  | finish => true
  | _ => false

end Token

structure Mark where
  number : Nat
  text : Octets
  tabs : Bool
  plain : Bool

structure Source where
  rest : List Char
  after : Option (List Char)
  line : Nat
  held : Option Token
  marks : List Mark
  texts : Array Word
  aliases : List (Octets × Octets)
  busy : List (Octets × Nat)

abbrev Reading := StateT Source (Except Fault)

namespace Reading

def fail {α : Type} (text : String) : Reading α := do
  throw ⟨(← get).line, text⟩

def unexpected {α : Type} (t : Token) : Reading α :=
  fail (t.shown ++ " unexpected")

def expected {α : Type} (t wanted : Token) : Reading α :=
  fail (t.shown ++ " unexpected (expecting " ++ wanted.shown ++ ")")

def hold (t : Token) : Reading Unit :=
  modify fun s => { s with held := some t }

def joined (line : Nat) : List Char → Nat × List Char
  | '\\' :: '\n' :: rest => joined (line + 1) rest
  | cs => (line, cs)

def peek : Reading (Option Char) := do
  let s ← get
  let (line, rest) := joined s.line s.rest
  set { s with line := line, rest := rest }
  return rest.head?

def take : Reading (Option Char) := do
  let s ← get
  match s.rest with
  | [] => return none
  | c :: rest =>
      set { s with rest := rest, line := if c = '\n' then s.line + 1 else s.line }
      return some c

def takeIf (c : Char) : Reading Bool := do
  if (← peek) = some c then
    let _ ← take
    return true
  else return false

def takeWhileFrom (p : Char → Bool) : Nat → Octets → Reading Octets
  | 0, done => return done.reverse
  | fuel + 1, done => do
      match ← peek with
      | some c =>
          if p c then
            let _ ← take
            takeWhileFrom p fuel (c :: done)
          else return done.reverse
      | none => return done.reverse

def takeWhile (p : Char → Bool) : Reading Octets := do
  takeWhileFrom p ((← get).rest.length + 1) []

def takeUntil (stop : Char) : Nat → Octets → Reading (Option Octets)
  | 0, _ => return none
  | fuel + 1, done => do
      match ← take with
      | none => return none
      | some c => if c = stop then return some done.reverse else takeUntil stop fuel (c :: done)

def skipBlanks : Reading Unit := do
  let _ ← takeWhile Octets.isBlank
  if (← peek) = some '#' then
    modify fun s => { s with rest := s.rest.dropWhile (· != '\n') }

end Reading

def endsWord (c : Char) : Bool :=
  Octets.isBlank c || "\n;&|<>()".toList.contains c

def Word.add (done : Word) (quoted : Bool) (c : Char) : Word :=
  match done with
  | .text octets q :: more =>
      if q = quoted then .text (c :: octets) q :: more else .text [c] quoted :: done
  | _ => .text [c] quoted :: done

def Word.sealed (done : Word) : Word :=
  (done.map fun piece =>
    match piece with
    | .text octets quoted => .text octets.reverse quoted
    | other => other).reverse

def Word.isQuoted (w : Word) : Bool :=
  w.any fun piece =>
    match piece with
    | .mark => true
    | .text _ quoted => quoted
    | _ => false

end LessonAudit.Program.Script
