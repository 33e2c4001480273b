import LessonAudit.Program.Rule.Syntax
set_option autoImplicit false

namespace LessonAudit.Program.Rule

inductive Token where
  | number (x : Float)
  | text (t : Octets)
  | pattern (t : Octets)
  | name (n : Octets)
  | call (n : Octets)
  | word (w : String)
  | builtin (w : String)
  | sign (s : String)
  | lineEnd

structure Placed where
  token : Token
  line : Nat
  text : Octets

def keywords : List String :=
  ["BEGIN", "END", "break", "continue", "delete", "do", "else", "exit", "for", "function",
    "getline", "if", "in", "next", "nextfile", "print", "printf", "return", "while"]

def builtins : List String :=
  ["atan2", "close", "cos", "exp", "fflush", "gsub", "index", "int", "length", "log", "match",
    "rand", "sin", "split", "sprintf", "sqrt", "srand", "sub", "substr", "system", "tolower",
    "toupper"]

def signs : List String :=
  ["&&", "||", "++", "--", "+=", "-=", "*=", "/=", "%=", "^=", "==", "<=", ">=", "!=", "!~",
    ">>", "\x7b", "\x7d", "(", ")", "[", "]", ";", ",", "+", "-", "*", "/", "%", "^", "!", ">",
    "<", "|", "?", ":", "~", "$", "="]

structure Fault where
  complaints : List Octets

def aboutLine (line : Nat) (message : String) (shown : Octets) : Octets :=
  "line ".toList ++ Octets.ofNat line ++ ": ".toList ++ message.toList ++ shown

def fault {α : Type} (line : Nat) (message : String) (shown : Octets) : Except Fault α :=
  .error ⟨[aboutLine line message shown]⟩

def readText : Nat → Octets → Octets → Option (Octets × Octets)
  | 0, _, _ => none
  | fuel + 1, done, cs =>
      match cs with
      | [] | '\n' :: _ => none
      | '"' :: rest => some (done.reverse, rest)
      | '\\' :: '\n' :: rest => readText fuel done rest
      | '\\' :: c :: rest =>
          let octal := ((c :: rest).take 3).takeWhile Octets.isOctal
          if !octal.isEmpty then
            readText fuel ((Format.octalOctet octal).reverse ++ done)
              ((c :: rest).drop octal.length)
          else
            match Format.letterEscape? .shell c with
            | some x => readText fuel (x :: done) rest
            | none =>
                if c = '"' then readText fuel (c :: done) rest
                else readText fuel (c :: '\\' :: done) rest
      | c :: rest => readText fuel (c :: done) rest

def readPattern : Nat → Bool → Octets → Octets → Option (Octets × Octets)
  | 0, _, _, _ => none
  | fuel + 1, inSet, done, cs =>
      match cs with
      | [] | '\n' :: _ => none
      | '\\' :: '/' :: rest => readPattern fuel inSet ('/' :: done) rest
      | '\\' :: c :: rest => readPattern fuel inSet (c :: '\\' :: done) rest
      | '/' :: rest =>
          if inSet then readPattern fuel inSet ('/' :: done) rest else some (done.reverse, rest)
      | '[' :: ']' :: rest => readPattern fuel true (']' :: '[' :: done) rest
      | '[' :: '^' :: ']' :: rest => readPattern fuel true (']' :: '^' :: '[' :: done) rest
      | c :: rest =>
          let inSet := if c = '[' then true else if c = ']' then false else inSet
          readPattern fuel inSet (c :: done) rest

def endsOperand : Token → Bool
  | .number _ | .text _ | .name _ | .pattern _ => true
  | .builtin w => w == "length"
  | .sign s => [")", "]", "$", "++", "--"].contains s
  | _ => false

def numberRun (cs : Octets) : Octets :=
  let whole := cs.takeWhile Char.isDigit
  let after := cs.drop whole.length
  let fraction :=
    match after with
    | '.' :: rest => '.' :: rest.takeWhile Char.isDigit
    | _ => []
  let after := after.drop fraction.length
  let power :=
    match after with
    | e :: rest =>
        if e = 'e' || e = 'E' then
          let (sign, digits) :=
            match rest with
            | '+' :: digits => (['+'], digits)
            | '-' :: digits => (['-'], digits)
            | digits => (([] : Octets), digits)
          let run := digits.takeWhile Char.isDigit
          if run.isEmpty then [] else e :: sign ++ run
        else []
    | [] => []
  whole ++ fraction ++ power

def isNameStart (c : Char) : Bool :=
  c.isAlpha || c == '_'

def wordToken (word rest : Octets) : Token :=
  let w := String.ofList word
  if keywords.contains w then .word w
  else if w = "func" then .word "function"
  else if builtins.contains w then .builtin w
  else if rest.head? = some '(' then .call word
  else .name word

def tokensFrom : Nat → Nat → Option Token → List Placed → Octets → Except Fault (List Placed)
  | 0, _, _, done, _ => .ok done.reverse
  | _ + 1, _, _, done, [] => .ok done.reverse
  | fuel + 1, line, before, done, c :: rest =>
      let next (t : Token) (text more : Octets) : Except Fault (List Placed) :=
        tokensFrom fuel line (some t) (⟨t, line, text⟩ :: done) more
      if c = '\n' then
        tokensFrom fuel (line + 1) (some .lineEnd) (⟨.lineEnd, line, "end of line".toList⟩ :: done)
          rest
      else if Octets.isSpace c then tokensFrom fuel line before done rest
      else if c = '\\' && rest.head? = some '\n' then
        tokensFrom fuel (line + 1) before done rest.tail
      else if c = '#' then tokensFrom fuel line before done (rest.dropWhile (· != '\n'))
      else if c = '"' then
        match readText (rest.length + 1) [] rest with
        | some (text, more) => next (.text text) (c :: rest.take (rest.length - more.length)) more
        | none =>
            fault line "runaway string constant " (c :: rest.takeWhile (· != '\n') ++ " ...".toList)
      else if c = '/' && !before.any endsOperand then
        match readPattern (rest.length + 1) false [] rest with
        | some (text, more) =>
            next (.pattern text) (c :: rest.take (rest.length - more.length)) more
        | none =>
            fault line "runaway regular expression "
              (c :: rest.takeWhile (· != '\n') ++ " ...".toList)
      else if c.isDigit || (c = '.' && rest.head?.any Char.isDigit) then
        let run := numberRun (c :: rest)
        next (.number (leadingFloat run)) run ((c :: rest).drop run.length)
      else if isNameStart c then
        let word := (c :: rest).takeWhile fun x => isNameStart x || x.isDigit
        let more := (c :: rest).drop word.length
        next (wordToken word more) word more
      else
        match signs.find? fun s => s.toList.isPrefixOf (c :: rest) with
        | some s => next (.sign s) s.toList ((c :: rest).drop s.length)
        | none =>
            .error
              ⟨[Octets.ofNat line ++ ": unexpected character \x27".toList ++ [c, '\x27']]⟩

def tokens (text : Octets) : Except Fault (List Placed) :=
  tokensFrom (text.length + 1) 1 none [] text

end LessonAudit.Program.Rule
