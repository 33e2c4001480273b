import LessonAudit.Program.Octets
set_option autoImplicit false

namespace LessonAudit.Program.Script

inductive Form where
  | plain
  | length
  | fallback
  | instead
  | assign
  | demand
  | cut (front longest : Bool)
  | faulty
deriving DecidableEq, Repr

mutual

inductive Piece where
  | text (octets : Octets) (quoted : Bool)
  | mark
  | value (name : Octets) (form : Form) (emptyToo : Bool) (word : List Piece) (quoted : Bool)
  | output (body : Option Command) (quoted : Bool)
  | number (expression : List Piece) (quoted : Bool)

inductive Redirect where
  | read (stream : Nat) (name : List Piece)
  | write (stream : Nat) (replaces : Bool) (name : List Piece)
  | append (stream : Nat) (name : List Piece)
  | both (stream : Nat) (name : List Piece)
  | join (stream : Nat) (target : List Piece)
  | here (stream number : Nat)

inductive Command where
  | simple (line : Nat) (assigned words : List (List Piece)) (redirects : List Redirect)
  | pipe (stages : List Command)
  | inverted (body : Command)
  | both (first second : Command)
  | either (first second : Command)
  | sequence (first second : Command)
  | background (line : Nat) (body : Command)
  | apart (line : Nat) (body : Option Command) (redirects : List Redirect)
  | redirected (line : Nat) (body : Option Command) (redirects : List Redirect)
  | branch (test yes no : Option Command)
  | loop (inverse : Bool) (test body : Option Command)
  | each (line : Nat) (name : Octets) (words : List (List Piece)) (body : Option Command)
  | choice (line : Nat) (word : List Piece) (cases : List (List (List Piece) × Option Command))
  | function (line : Nat) (name : Octets) (body : Command)

end

abbrev Word := List Piece

def isNameStart (c : Char) : Bool :=
  c.isAlpha || c == '_'

def isNameChar (c : Char) : Bool :=
  c.isAlphanum || c == '_'

def isName (text : Octets) : Bool :=
  text.head?.any isNameStart && text.all isNameChar

def Word.assignment? (w : Word) : Option (Octets × Word) :=
  match w with
  | .text octets false :: more =>
      let name := octets.takeWhile isNameChar
      match octets.drop name.length with
      | '=' :: rest =>
          if isName name then
            some (name, if rest.isEmpty then more else .text rest false :: more)
          else none
      | _ => none
  | _ => none

def Word.plainText (w : Word) : Octets :=
  w.flatMap fun piece =>
    match piece with
    | .text octets _ => octets
    | _ => []

def Word.everything : Word :=
  [.mark, .value ['@'] .plain false [] true, .mark]

end LessonAudit.Program.Script
