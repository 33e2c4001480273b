import LessonAudit.Program.Script.Word
set_option autoImplicit false

namespace LessonAudit.Program.Script

open Reading

structure Wanted where
  breaks : Bool
  keywords : Bool
  names : Bool

namespace Wanted

def any : Wanted := ⟨false, false, false⟩
def command : Wanted := ⟨false, true, true⟩
def later : Wanted := ⟨true, true, true⟩

end Wanted

def doubled (c : Char) : Reading Token := do
  let _ ← take
  if ← takeIf c then return .sign (String.ofList [c, c])
  else return .sign (String.ofList [c])

def redirectSign (stream : Option Nat) : Reading Token := do
  if ← takeIf '>' then
    if ← takeIf '>' then return .redirect stream ">>"
    else if ← takeIf '|' then return .redirect stream ">|"
    else if ← takeIf '&' then return .redirect stream ">&"
    else return .redirect stream ">"
  else
    let _ ← take
    if ← takeIf '<' then
      if ← takeIf '-' then return .redirect stream "<<-" else return .redirect stream "<<"
    else if ← takeIf '&' then return .redirect stream "<&"
    else if ← takeIf '>' then return .redirect stream "<>"
    else return .redirect stream "<"

def streamOf? (w : Word) : Option (Option Nat) :=
  match w with
  | [] => some none
  | [.text [d] false] => if d.isDigit then some (some (d.toNat - 48)) else none
  | _ => none

def rawToken (inner : Inner) (literal : Bool) : Reading Token := do
  skipBlanks
  match ← peek with
  | none => return .finish
  | some '\n' =>
      let _ ← take
      return .newline
  | some '&' => doubled '&'
  | some '|' => doubled '|'
  | some ';' => doubled ';'
  | some '(' =>
      let _ ← take
      return .sign "("
  | some ')' =>
      let _ ← take
      return .sign ")"
  | _ =>
      let w ← word inner literal
      let next ← peek
      match next == some '<' || next == some '>', streamOf? w with
      | true, some stream => redirectSign stream
      | _, _ => return .word w

def heldOrRaw (inner : Inner) (literal : Bool) : Reading Token := do
  match (← get).held with
  | some t =>
      modify fun s => { s with held := none }
      return t
  | none => rawToken inner literal

def Source.alias? (s : Source) (name : Octets) : Option Octets :=
  let busy := s.busy.any fun (other, length) => other == name && decide (length < s.rest.length)
  if busy then none else s.aliases.lookup name

def tokenFrom (inner : Inner) (w : Wanted) : Nat → Reading Token
  | 0 => return .finish
  | fuel + 1 => do
      match ← heldOrRaw inner false with
      | .newline =>
          if w.breaks then
            readTexts inner
            tokenFrom inner w fuel
          else return .newline
      | .word pieces =>
          match pieces with
          | [.text name false] =>
              let text := String.ofList name
              if w.keywords && Token.keywords.contains text then return .keyword text
              else
                match w.names, (← get).alias? name with
                | true, some value =>
                    modify fun s =>
                      { s with rest := value ++ s.rest, busy := (name, s.rest.length) :: s.busy }
                    tokenFrom inner w fuel
                | _, _ => return .word pieces
          | _ => return .word pieces
      | t => return t

def token (inner : Inner) (w : Wanted) : Reading Token := do
  tokenFrom inner w (2 * (← get).rest.length + 100)

def redirection (inner : Inner) (stream : Option Nat) (sign : String) : Reading Redirect := do
  let isHere := sign == "<<" || sign == "<<-"
  match ← heldOrRaw inner isHere with
  | .word w =>
      let into := stream.getD 1
      let source := stream.getD 0
      match sign with
      | ">" => return .write into false w
      | ">|" => return .write into true w
      | ">>" => return .append into w
      | "<>" => return .both source w
      | "<" => return .read source w
      | ">&" => return .join into w
      | "<&" => return .join source w
      | _ =>
          let number := (← get).texts.size
          modify fun s =>
            { s with
              texts := s.texts.push []
              marks := s.marks ++ [⟨number, w.plainText, sign == "<<-", w.isQuoted⟩] }
          return .here source number
  | t => unexpected t

def redirections (inner : Inner) : Nat → List Redirect → Reading (List Redirect)
  | 0, done => return done.reverse
  | fuel + 1, done => do
      match ← token inner .command with
      | .redirect stream sign =>
          let r ← redirection inner stream sign
          redirections inner fuel (r :: done)
      | t =>
          hold t
          return done.reverse

inductive Extent where
  | line
  | inside
  | case
deriving DecidableEq, Repr

structure Readers where
  list : Extent → Reading (Option Command)
  command : Reading Command
  token : Wanted → Reading Token
  texts : Reading Unit

namespace Readers

def closed (r : Readers) : Reading (Option Command) := do
  let marks := (← get).marks
  modify fun s => { s with marks := [] }
  let body ← r.list .case
  match ← r.token .any with
  | .sign ")" =>
      r.texts
      modify fun s => { s with marks := marks }
      return body
  | t => expected t (.sign ")")

def exhausted : Readers :=
  ⟨fun _ => fail "word unexpected", fail "word unexpected", fun _ => fail "word unexpected",
    fail "word unexpected"⟩

end Readers

structure Simple where
  assigned : List Word
  words : List Word
  redirects : List Redirect

def specialNames : List String :=
  [".", ":", "break", "continue", "eval", "exec", "exit", "export", "readonly", "return", "set",
    "shift", "times", "trap", "unset"]

def simple (inner : Inner) (r : Readers) (line : Nat) : Nat → Simple → Reading Command
  | 0, s => return .simple line s.assigned.reverse s.words.reverse s.redirects.reverse
  | fuel + 1, s => do
      let start := s.words.isEmpty
      match ← token inner ⟨false, false, start⟩ with
      | .word w =>
          if start && w.assignment?.isSome then
            simple inner r line fuel { s with assigned := w :: s.assigned }
          else simple inner r line fuel { s with words := w :: s.words }
      | .redirect stream sign =>
          let redirect ← redirection inner stream sign
          simple inner r line fuel { s with redirects := redirect :: s.redirects }
      | t =>
          match t.isSign "(" && s.assigned.isEmpty && s.redirects.isEmpty, s.words with
          | true, [w] =>
              let close ← token inner .any
              if !close.isSign ")" then expected close (.sign ")")
              else
                let name := w.plainText
                let fine := !w.isQuoted && isName name && w.length == 1
                if !fine || specialNames.contains (String.ofList name) then
                  fail "Bad function name"
                else
                  let t ← token inner .later
                  hold t
                  let place := (← get).line
                  return .function place name (← r.command)
          | _, _ =>
              hold t
              return .simple line s.assigned.reverse s.words.reverse s.redirects.reverse

def expectToken (inner : Inner) (wanted : Token) (fits : Token → Bool) : Reading Unit := do
  let t ← token inner .any
  if fits t then return () else expected t wanted

def expectKeyword (inner : Inner) (text : String) : Reading Unit :=
  expectToken inner (.keyword text) fun t => t.isKeyword text

def branch (inner : Inner) (r : Readers) : Nat → Reading Command
  | 0 => fail "word unexpected"
  | fuel + 1 => do
      let test ← r.list .inside
      expectKeyword inner "then"
      let yes ← r.list .inside
      match ← token inner .any with
      | .keyword "elif" => return .branch test yes (some (← branch inner r fuel))
      | .keyword "else" => return .branch test yes (← r.list .inside)
      | t =>
          hold t
          return .branch test yes none

def loop (inner : Inner) (r : Readers) (inverse : Bool) : Reading Command := do
  let test ← r.list .inside
  expectKeyword inner "do"
  let body ← r.list .inside
  return .loop inverse test body

def wordsFrom (inner : Inner) : Nat → List Word → Reading (List Word × Token)
  | 0, done => return (done.reverse, .finish)
  | fuel + 1, done => do
      match ← token inner .any with
      | .word w => wordsFrom inner fuel (w :: done)
      | t => return (done.reverse, t)

def each (inner : Inner) (r : Readers) : Reading Command := do
  let line := (← get).line
  let name ←
    match ← token inner .any with
    | .word [.text name false] =>
        if isName name then pure name else fail "Bad for loop variable"
    | _ => fail "Bad for loop variable"
  let next ← token inner .later
  let words ←
    if next.isKeyword "in" then
      let (words, last) ← wordsFrom inner ((← get).rest.length + 1) []
      if last.isNewline || last.isSign ";" then pure words else unexpected last
    else
      if !next.isSign ";" then hold next
      pure [Word.everything]
  let t ← token inner .later
  if !t.isKeyword "do" then expected t (.keyword "do")
  else return .each line name words (← r.list .inside)

def Token.pattern : Token → Word
  | .word w => w
  | .keyword text => [.text text.toList false]
  | _ => []

def patterns (inner : Inner) : Nat → List Word → Token → Reading (List Word)
  | 0, done, _ => return done.reverse
  | fuel + 1, done, t => do
      let done := t.pattern :: done
      match ← token inner .any with
      | .sign "|" => patterns inner fuel done (← token inner .any)
      | .sign ")" => return done.reverse
      | t => expected t (.sign ")")

def cases (inner : Inner) (r : Readers) :
    Nat → List (List Word × Option Command) → Reading (List (List Word × Option Command))
  | 0, done => return done.reverse
  | fuel + 1, done => do
      let t ← token inner ⟨true, true, false⟩
      if t.isKeyword "esac" then return done.reverse
      else
        let t ← if t.isSign "(" then token inner .any else pure t
        let found ← patterns inner ((← get).rest.length + 1) [] t
        let body ← r.list .case
        let done := (found, body) :: done
        let t ← token inner ⟨true, true, false⟩
        if t.isKeyword "esac" then return done.reverse
        else if t.isSign ";;" then cases inner r fuel done
        else expected t (.sign ";;")

def choice (inner : Inner) (r : Readers) : Reading Command := do
  let line := (← get).line
  match ← token inner .any with
  | .word w =>
      let t ← token inner .later
      if !t.isKeyword "in" then expected t (.keyword "in")
      else return .choice line w (← cases inner r ((← get).rest.length + 1) [])
  | t => expected t (.word [])

def Command.redirectedBy (line : Nat) (redirects : List Redirect) : Command → Command
  | .apart place body _ => .apart place body redirects
  | c => if redirects.isEmpty then c else .redirected line (some c) redirects

def command (inner : Inner) (r : Readers) : Reading Command := do
  let behind (line : Nat) (c : Command) : Reading Command := do
    return c.redirectedBy line (← redirections inner ((← get).rest.length + 1) [])
  let t ← token inner .any
  let line := (← get).line
  match t with
  | .keyword "if" =>
      let c ← branch inner r ((← get).rest.length + 1)
      expectKeyword inner "fi"
      behind line c
  | .keyword "while" =>
      let c ← loop inner r false
      expectKeyword inner "done"
      behind line c
  | .keyword "until" =>
      let c ← loop inner r true
      expectKeyword inner "done"
      behind line c
  | .keyword "for" =>
      let c ← each inner r
      expectKeyword inner "done"
      behind line c
  | .keyword "case" =>
      let c ← choice inner r
      behind line c
  | .keyword "\x7b" =>
      let body ← r.list .inside
      expectKeyword inner "\x7d"
      let redirects ← redirections inner ((← get).rest.length + 1) []
      match body, redirects with
      | some c, [] => return c
      | _, _ => return .redirected line body redirects
  | .sign "(" =>
      let body ← r.list .inside
      expectToken inner (.sign ")") fun t => t.isSign ")"
      behind line (.apart line body [])
  | .word _ | .redirect .. =>
      hold t
      simple inner r line ((← get).rest.length + 2) ⟨[], [], []⟩
  | t => unexpected t

def stages (inner : Inner) (r : Readers) : Nat → List Command → Reading (List Command)
  | 0, done => return done.reverse
  | fuel + 1, done => do
      match ← token inner .any with
      | .sign "|" =>
          let t ← token inner .later
          hold t
          stages inner r fuel ((← command inner r) :: done)
      | t =>
          hold t
          return done.reverse

def pipeline (inner : Inner) (r : Readers) : Reading Command := do
  let t ← token inner .any
  let inverted := t.isKeyword "!"
  hold (← if inverted then token inner .command else pure t)
  let first ← command inner r
  let body ←
    match ← stages inner r ((← get).rest.length + 1) [first] with
    | [c] => pure c
    | several => pure (.pipe several)
  return if inverted then .inverted body else body

def andOrFrom (inner : Inner) (r : Readers) : Nat → Command → Reading Command
  | 0, done => return done
  | fuel + 1, done => do
      let t ← token inner .any
      if t.isSign "&&" || t.isSign "||" then
        hold (← token inner .later)
        let second ← pipeline inner r
        andOrFrom inner r fuel
          (if t.isSign "&&" then .both done second else .either done second)
      else
        hold t
        return done

def andOr (inner : Inner) (r : Readers) : Reading Command := do
  let first ← pipeline inner r
  andOrFrom inner r ((← get).rest.length + 1) first

def listFrom (inner : Inner) (r : Readers) (extent : Extent) :
    Nat → Option Command → Reading (Option Command)
  | 0, done => return done
  | fuel + 1, done => do
      match ← token inner ⟨extent != .line, true, true⟩ with
      | .newline =>
          readTexts inner
          return done
      | .finish =>
          readTexts inner
          hold .finish
          return done
      | t =>
          hold t
          if t.isEnd && (extent == .case || (extent == .inside && done.isSome)) then return done
          else
            let line := (← get).line
            let c ← andOr inner r
            let t ← token inner .any
            let c := if t.isSign "&" then .background line c else c
            let done := some (done.elim c fun before => .sequence before c)
            match t with
            | .finish =>
                readTexts inner
                hold .finish
                return done
            | .newline =>
                hold .newline
                listFrom inner r extent fuel done
            | .sign "&" | .sign ";" => listFrom inner r extent fuel done
            | t =>
                if extent == .line then unexpected t
                else
                  hold t
                  return done

def Readers.next (r : Readers) : Readers :=
  let inner : Inner := ⟨r.closed, r.list .case⟩
  { list := fun extent => do listFrom inner r extent ((← get).rest.length + 2) none
    command := Script.command inner r
    token := Script.token inner
    texts := readTexts inner }

def Readers.level : Nat → Readers
  | 0 => .exhausted
  | n + 1 => (level n).next

def depthLimit : Nat := 500

def readers : Readers := .level depthLimit

structure Line where
  command : Option Command
  atEnd : Bool
  source : Source

def Source.readLine (s : Source) : Except Fault (Option Line) := do
  if s.rest.isEmpty then return none
  else
    let (c, s) ← (readers.list .line).run { s with held := none, marks := [] }
    let atEnd :=
      match s.held with
      | some .finish => true
      | _ => false
    return some ⟨c, atEnd, { s with held := none }⟩

end LessonAudit.Program.Script
