import LessonAudit.Program.Rule.Token
set_option autoImplicit false

namespace LessonAudit.Program.Rule

structure Draft where
  all : List Placed
  rest : List Placed
  lastLine : Nat
  loops : Nat
  inFunction : Bool
  inLast : Bool

abbrev Reading := StateT Draft (Except Fault)

namespace Reading

def upcoming : Reading (Option Token) := do
  return (← get).rest.head?.map fun p => p.token

def line : Reading Nat := do
  let d ← get
  return (d.rest.head?.map fun p => p.line).getD d.lastLine

def skip : Reading Unit :=
  modify fun d => { d with rest := d.rest.drop 1 }

def refuse {α : Type} (what : String) : Reading α := do
  let d ← get
  match d.rest with
  | p :: _ => fault p.line what p.text
  | [] =>
      if what = "missing \x7d near " then fault (d.lastLine + 1) what "end of file".toList
      else fault d.lastLine what "end of line".toList

def openCount : Reading Nat := do
  let d ← get
  return (d.all.take (d.all.length - d.rest.length)).foldl
    (fun n p =>
      match p.token with
      | .sign "(" => n + 1
      | .sign ")" => n - 1
      | _ => n)
    0

def confused {α : Type} : Reading α := do
  match ← upcoming with
  | some (.sign "\x7d") =>
      if 0 < (← openCount) then refuse "missing ) near " else refuse "syntax error at or near "
  | _ => refuse "syntax error at or near "

def isSign (t : Option Token) (signs : List String) : Bool :=
  match t with
  | some (.sign s) => signs.contains s
  | _ => false

def isWord (t : Option Token) (word : String) : Bool :=
  match t with
  | some (.word w) => w == word
  | _ => false

def sign? (signs : List String) : Reading (Option String) := do
  match ← upcoming with
  | some (.sign s) =>
      if signs.contains s then
        skip
        return some s
      else return none
  | _ => return none

def expect (s : String) : Reading Unit := do
  match ← sign? [s] with
  | some _ => return ()
  | none =>
      if s = ")" || s = "\x7d" then refuse ("missing " ++ s ++ " near ") else confused

def skipLines (semicolons : Bool) : Nat → Reading Unit
  | 0 => return ()
  | fuel + 1 => do
      match ← upcoming with
      | some .lineEnd =>
          skip
          skipLines semicolons fuel
      | some (.sign ";") =>
          if semicolons then
            skip
            skipLines semicolons fuel
          else return ()
      | _ => return ()

def pass : Reading Unit := do
  skipLines false ((← get).rest.length + 1)

def passAll : Reading Unit := do
  skipLines true ((← get).rest.length + 1)

def name : Reading Octets := do
  match ← upcoming with
  | some (.name n) =>
      skip
      return n
  | _ => confused

end Reading

open Reading

structure Manner where
  holds : Bool
  sends : Bool

def anywhere : Manner := ⟨true, true⟩

def isTarget : Expr → Bool
  | .named _ | .element .. | .field _ => true
  | _ => false

def patternFault (f : Regex.Fault) : String :=
  match f with
  | .group => "missing \x27)\x27"
  | .closing => "extra \x27)\x27"
  | .bracket | .pattern => "bad class -- [], [^] or ["
  | .preceding => "missing operand"
  | .backslash => "Trailing backslash"
  | _ => "bad interval value"

def dialect : Regex.Dialect := ⟨true, false, true, false⟩

def readRegex (text : Octets) : Except Octets Regex :=
  (Regex.read dialect text).mapError fun f =>
    ("regular expression compile failed (" ++ patternFault f ++ ")\n").toList ++ text

def compiled (line : Nat) (text : Octets) : Except Fault Regex :=
  (readRegex text).mapError fun message => ⟨[aboutLine line "" message]⟩

def constant (line : Nat) (e : Expr) : Except Fault Expr :=
  match e with
  | .text t => (compiled line t).map .pattern
  | other => .ok other

def startsOperand (t : Option Token) : Bool :=
  match t with
  | some (.number _) | some (.text _) | some (.name _) | some (.call _) | some (.builtin _) => true
  | some (.pattern _) => true
  | some (.sign s) => ["$", "!", "(", "-", "+", "++", "--"].contains s
  | _ => false

def comparison? (s : String) : Option (Operator × Bool × Bool) :=
  match s with
  | "<" => some (.less, false, false)
  | "<=" => some (.atMost, false, false)
  | ">" => some (.less, true, false)
  | ">=" => some (.atMost, true, false)
  | "==" => some (.equal, false, false)
  | "!=" => some (.equal, false, true)
  | _ => none

def change? (s : String) : Option (Option Operator) :=
  match s with
  | "=" => some none
  | "+=" => some (some .add)
  | "-=" => some (some .sub)
  | "*=" => some (some .mul)
  | "/=" => some (some .div)
  | "%=" => some (some .mod)
  | "^=" => some (some .power)
  | _ => none

mutual

def readList (fuel : Nat) (m : Manner) : Reading (List Expr) :=
  match fuel with
  | 0 => confused
  | fuel + 1 => do
      let e ← readExpr fuel m
      match ← sign? [","] with
      | some _ =>
          pass
          return e :: (← readList fuel m)
      | none => return [e]

def readArguments (fuel : Nat) : Reading (List Expr) :=
  match fuel with
  | 0 => confused
  | fuel + 1 => do
      match ← sign? [")"] with
      | some _ => return []
      | none =>
          let found ← readList fuel anywhere
          pass
          expect ")"
          return found

def readExpr (fuel : Nat) (m : Manner) : Reading Expr :=
  match fuel with
  | 0 => confused
  | fuel + 1 => do
      let e ← readChoice fuel m
      match ← upcoming with
      | some (.sign s) =>
          match isTarget e, change? s with
          | true, some change =>
              skip
              pass
              return .assign e change (← readExpr fuel m)
          | _, _ => return e
      | _ => return e

def readChoice (fuel : Nat) (m : Manner) : Reading Expr :=
  match fuel with
  | 0 => confused
  | fuel + 1 => do
      let c ← readEither fuel m
      match ← sign? ["?"] with
      | none => return c
      | some _ =>
          pass
          let first ← readExpr fuel m
          pass
          expect ":"
          pass
          return .choice c first (← readExpr fuel m)

def readEither (fuel : Nat) (m : Manner) : Reading Expr :=
  match fuel with
  | 0 => confused
  | fuel + 1 => do
      let first ← readBoth fuel m
      match ← sign? ["||"] with
      | none => return first
      | some _ =>
          pass
          return .either first (← readEither fuel m)

def readBoth (fuel : Nat) (m : Manner) : Reading Expr :=
  match fuel with
  | 0 => confused
  | fuel + 1 => do
      let first ← readHolds fuel m
      match ← sign? ["&&"] with
      | none => return first
      | some _ =>
          pass
          return .both first (← readBoth fuel m)

def readHolds (fuel : Nat) (m : Manner) : Reading Expr :=
  match fuel with
  | 0 => confused
  | fuel + 1 => do readHoldsFrom fuel m (← readMatching fuel m)

def readHoldsFrom (fuel : Nat) (m : Manner) (e : Expr) : Reading Expr :=
  match fuel with
  | 0 => confused
  | fuel + 1 => do
      if m.holds && isWord (← upcoming) "in" then
        skip
        let array ← name
        readHoldsFrom fuel m (.holds array [e])
      else return e

def readMatching (fuel : Nat) (m : Manner) : Reading Expr :=
  match fuel with
  | 0 => confused
  | fuel + 1 => do readMatchingFrom fuel m (← readComparison fuel m)

def readMatchingFrom (fuel : Nat) (m : Manner) (e : Expr) : Reading Expr :=
  match fuel with
  | 0 => confused
  | fuel + 1 => do
      match ← sign? ["~", "!~"] with
      | none => return e
      | some s =>
          let here ← line
          let pattern ← readComparison fuel m
          readMatchingFrom fuel m (.matching (s == "!~") e (← constant here pattern))

def readComparison (fuel : Nat) (m : Manner) : Reading Expr :=
  match fuel with
  | 0 => confused
  | fuel + 1 => do
      let first ← readPiped fuel (← readJoined fuel m)
      match ← upcoming with
      | some (.sign s) =>
          match comparison? s with
          | none => return first
          | some (o, turned, negated) =>
              if s = ">" && !m.sends then return first
              else
                skip
                let second ← readPiped fuel (← readJoined fuel m)
                let e : Expr := if turned then .binary o second first else .binary o first second
                return if negated then .negation e else e
      | _ => return first

def readPiped (fuel : Nat) (e : Expr) : Reading Expr :=
  match fuel with
  | 0 => confused
  | fuel + 1 => do
      let d ← get
      match d.rest with
      | ⟨.sign "|", _, _⟩ :: ⟨.word "getline", _, _⟩ :: more =>
          set { d with rest := more }
          let target ← readTarget fuel
          readPiped fuel (.line .command (some e) target)
      | _ => return e

def readTarget (fuel : Nat) : Reading (Option Expr) :=
  match fuel with
  | 0 => confused
  | fuel + 1 => do
      match ← upcoming with
      | some (.name _) | some (.sign "$") => return some (← readPrimary fuel)
      | _ => return none

def readJoined (fuel : Nat) (m : Manner) : Reading Expr :=
  match fuel with
  | 0 => confused
  | fuel + 1 => do readJoinedFrom fuel m (← readSum fuel m)

def readJoinedFrom (fuel : Nat) (m : Manner) (e : Expr) : Reading Expr :=
  match fuel with
  | 0 => confused
  | fuel + 1 => do
      if startsOperand (← upcoming) && !isSign (← upcoming) ["!"] then
        let second ← readSum fuel m
        readJoinedFrom fuel m (.binary .join e second)
      else return e

def readSum (fuel : Nat) (m : Manner) : Reading Expr :=
  match fuel with
  | 0 => confused
  | fuel + 1 => do readSumFrom fuel m (← readProduct fuel m)

def readSumFrom (fuel : Nat) (m : Manner) (e : Expr) : Reading Expr :=
  match fuel with
  | 0 => confused
  | fuel + 1 => do
      match ← sign? ["+", "-"] with
      | none => return e
      | some s =>
          let second ← readProduct fuel m
          readSumFrom fuel m (.binary (if s = "+" then .add else .sub) e second)

def readProduct (fuel : Nat) (m : Manner) : Reading Expr :=
  match fuel with
  | 0 => confused
  | fuel + 1 => do readProductFrom fuel m (← readSigned fuel m)

def readProductFrom (fuel : Nat) (m : Manner) (e : Expr) : Reading Expr :=
  match fuel with
  | 0 => confused
  | fuel + 1 => do
      match ← sign? ["*", "/", "%"] with
      | none => return e
      | some s =>
          let second ← readSigned fuel m
          let o : Operator := if s = "*" then .mul else if s = "/" then .div else .mod
          readProductFrom fuel m (.binary o e second)

def readSigned (fuel : Nat) (m : Manner) : Reading Expr :=
  match fuel with
  | 0 => confused
  | fuel + 1 => do
      match ← sign? ["!", "-", "+"] with
      | some "!" => return .negation (← readSigned fuel m)
      | some "-" => return .negative (← readSigned fuel m)
      | some _ => return .positive (← readSigned fuel m)
      | none =>
          let e ← readStepped fuel
          match ← sign? ["^"] with
          | none => return e
          | some _ => return .binary .power e (← readSigned fuel m)

def readStepped (fuel : Nat) : Reading Expr :=
  match fuel with
  | 0 => confused
  | fuel + 1 => do
      let e ← readPrimary fuel
      if isTarget e then
        match ← sign? ["++", "--"] with
        | some s => return .step e (s == "++") false
        | none => return e
      else return e

def readPrimary (fuel : Nat) : Reading Expr :=
  match fuel with
  | 0 => confused
  | fuel + 1 => do
      let here ← line
      match ← upcoming with
      | some (.number x) =>
          skip
          return .number x
      | some (.text t) =>
          skip
          return .text t
      | some (.pattern t) =>
          skip
          return .pattern (← compiled here t)
      | some (.name n) =>
          skip
          match ← sign? ["["] with
          | some _ =>
              let keys ← readList fuel anywhere
              match ← sign? ["]"] with
              | some _ => return .element n keys
              | none => confused
          | none => return .named n
      | some (.call n) =>
          skip
          skip
          return .call n (← readArguments fuel)
      | some (.builtin w) =>
          skip
          match ← sign? ["("] with
          | some _ => return .builtin w (← readArguments fuel)
          | none => if w = "length" then return .builtin w [] else confused
      | some (.word "getline") =>
          skip
          let target ← readTarget fuel
          match ← sign? ["<"] with
          | some _ => return .line .file (some (← readPrimary fuel)) target
          | none => return .line .main none target
      | some (.sign "$") =>
          skip
          match ← sign? ["++", "--", "-"] with
          | some "-" => return .field (.negative (← readPrimary fuel))
          | some s => return .field (.step (← readPrimary fuel) (s == "++") true)
          | none => return .field (← readPrimary fuel)
      | some (.sign "++") =>
          skip
          let e ← readPrimary fuel
          if isTarget e then return .step e true true else return .positive (.positive e)
      | some (.sign "--") =>
          skip
          let e ← readPrimary fuel
          if isTarget e then return .step e false true else return .negative (.negative e)
      | some (.sign "-") =>
          skip
          return .negative (← readPrimary fuel)
      | some (.sign "(") =>
          skip
          pass
          let found ← readList fuel anywhere
          pass
          expect ")"
          match found with
          | [e] => return .grouped e
          | keys =>
              if isWord (← upcoming) "in" then
                skip
                return .holds (← name) keys
              else confused
      | _ => confused

end

def atEnd (t : Option Token) : Bool :=
  match t with
  | none | some .lineEnd => true
  | some (.sign s) => s == ";" || s == "\x7d"
  | _ => false

def readEnd : Reading Unit := do
  match ← upcoming with
  | none => return ()
  | some .lineEnd | some (.sign ";") => skip
  | some (.sign "\x7d") => return ()
  | _ => confused

def readPrint (fuel : Nat) (formatted : Bool) : Reading Statement := do
  let quiet : Manner := ⟨true, false⟩
  let ends (t : Option Token) : Bool := atEnd t || isSign t [">", ">>", "|"]
  let start ← get
  let inParentheses : Reading (List Expr) := do
    match ← sign? ["("] with
    | none => confused
    | some _ =>
        pass
        let found ← readList fuel anywhere
        pass
        expect ")"
        if ends (← upcoming) then return found else confused
  let arguments ←
    if ends (← upcoming) then pure []
    else if isSign (← upcoming) ["("] then
      match inParentheses.run start with
      | .ok (found, d) =>
          set d
          pure found
      | .error _ => readList fuel quiet
    else readList fuel quiet
  match ← sign? [">", ">>", "|"] with
  | none => return .print formatted arguments none
  | some s =>
      let outlet : Outlet :=
        if s = ">" then .fresh else if s = ">>" then .append else .command
      let goal ← readJoined fuel quiet
      return .print formatted arguments (some (outlet, goal))

mutual

def readSimple (fuel : Nat) : Reading Statement :=
  match fuel with
  | 0 => confused
  | fuel + 1 => do
      match ← upcoming with
      | some (.word "print") =>
          skip
          readPrint fuel false
      | some (.word "printf") =>
          skip
          readPrint fuel true
      | some (.word "delete") =>
          skip
          let array ← name
          match ← sign? ["["] with
          | none => return .delete array none
          | some _ =>
              let keys ← readList fuel anywhere
              expect "]"
              return .delete array (some keys)
      | _ => return .expr (← readExpr fuel anywhere)

def readBlock (fuel : Nat) : Reading (List Statement) :=
  match fuel with
  | 0 => confused
  | fuel + 1 => do
      passAll
      match ← sign? ["\x7d"] with
      | some _ => return []
      | none =>
          match ← upcoming with
          | none => refuse "missing \x7d near "
          | _ =>
              let s ← readStatement fuel
              return s :: (← readBlock fuel)

def readBody (fuel : Nat) (loop : Bool) : Reading Statement :=
  match fuel with
  | 0 => confused
  | fuel + 1 => do
      pass
      let count : Nat := if loop then 1 else 0
      modify fun d => { d with loops := d.loops + count }
      let s ←
        match ← sign? [";"] with
        | some _ => pure (.block [])
        | none =>
            if isSign (← upcoming) ["\x7d"] then pure (.block []) else readStatement fuel
      modify fun d => { d with loops := d.loops - count }
      return s

def readStatement (fuel : Nat) : Reading Statement :=
  match fuel with
  | 0 => confused
  | fuel + 1 => do
      let here ← line
      let inside (what : String) (fine : Bool) (s : Statement) : Reading Statement := do
        if !fine then fault here what []
        skip
        readEnd
        return s
      let condition : Reading Expr := do
        expect "("
        let c ← readExpr fuel anywhere
        expect ")"
        return c
      let optional : Reading (Option Expr) := do
        if atEnd (← upcoming) then return none else return some (← readExpr fuel anywhere)
      match ← upcoming with
      | some (.sign "\x7b") =>
          skip
          let body ← readBlock fuel
          return .block body
      | some (.word "if") =>
          skip
          let c ← condition
          let first ← readBody fuel false
          let before ← get
          passAll
          if isWord (← upcoming) "else" then
            skip
            return .branch c first (some (← readBody fuel false))
          else
            set before
            return .branch c first none
      | some (.word "while") =>
          skip
          let c ← condition
          return .loop none (some c) none (← readBody fuel true)
      | some (.word "do") =>
          skip
          let body ← readBody fuel true
          passAll
          if isWord (← upcoming) "while" then
            skip
            let c ← condition
            readEnd
            return .loopBehind body c
          else confused
      | some (.word "for") =>
          skip
          expect "("
          let d ← get
          match d.rest with
          | ⟨.name n, _, _⟩ :: ⟨.word "in", _, _⟩ :: ⟨.name array, _, _⟩ :: ⟨.sign ")", _, _⟩ ::
              more =>
              set { d with rest := more }
              return .each n array (← readBody fuel true)
          | _ =>
              let simple : Reading (Option Statement) := do
                if isSign (← upcoming) [";", ")"] then return none
                else return some (← readSimple fuel)
              let before ← simple
              expect ";"
              pass
              let c ← if isSign (← upcoming) [";"] then pure none
                else pure (some (← readExpr fuel anywhere))
              expect ";"
              pass
              let after ← simple
              expect ")"
              return .loop before c after (← readBody fuel true)
      | some (.word "break") =>
          inside "BREAK outside a loop" (0 < (← get).loops) .leaveLoop
      | some (.word "continue") =>
          inside "CONTINUE outside a loop" (0 < (← get).loops) .nextRound
      | some (.word "next") => inside "improper use of next" (!(← get).inLast) .nextLine
      | some (.word "nextfile") => inside "improper use of nextfile" (!(← get).inLast) .nextFile
      | some (.word "exit") =>
          skip
          let status ← optional
          readEnd
          return .exit status
      | some (.word "return") =>
          if !(← get).inFunction then fault here "return outside function body" []
          skip
          let value ← optional
          readEnd
          return .back value
      | _ =>
          let s ← readSimple fuel
          readEnd
          return s

end

def readFunction (fuel : Nat) : Reading Function := do
  let n ←
    match ← upcoming with
    | some (.name n) | some (.call n) =>
        skip
        pure n
    | _ => confused
  expect "("
  let parameters ← readNames ((← get).rest.length + 1)
  expect ")"
  pass
  expect "\x7b"
  modify fun d => { d with inFunction := true, loops := 0 }
  let body ← readBlock fuel
  modify fun d => { d with inFunction := false }
  return ⟨n, parameters, body⟩
where
  readNames : Nat → Reading (List Octets)
    | 0 => confused
    | fuel + 1 => do
        if isSign (← upcoming) [")"] then return []
        else
          let n ← name
          match ← sign? [","] with
          | some _ =>
              pass
              return n :: (← readNames fuel)
          | none => return [n]

def readEntry (fuel : Nat) : Reading Entry := do
  let block : Reading (List Statement) := do
    pass
    expect "\x7b"
    readBlock fuel
  match ← upcoming with
  | some (.word "BEGIN") =>
      skip
      modify fun d => { d with inLast := true }
      return ⟨.first, some (← block)⟩
  | some (.word "END") =>
      skip
      modify fun d => { d with inLast := true }
      return ⟨.last, some (← block)⟩
  | some (.sign "\x7b") => return ⟨.always, some (← block)⟩
  | _ =>
      let first ← readExpr fuel anywhere
      let occasion ←
        match ← sign? [","] with
        | some _ =>
            pass
            pure (Occasion.between first (← readExpr fuel anywhere))
        | none => pure (.when first)
      if isSign (← upcoming) ["\x7b"] then return ⟨occasion, some (← block)⟩
      else return ⟨occasion, none⟩

def readEntries : Nat → Script → Reading Script
  | 0, s => return s
  | fuel + 1, s => do
      passAll
      modify fun d => { d with inLast := false, loops := 0 }
      match ← upcoming with
      | none => return s
      | some (.word "function") =>
          skip
          let f ← readFunction (100 * fuel)
          readEntries fuel { s with functions := f :: s.functions }
      | some (.sign "\x7d") =>
          let here ← line
          throw ⟨[aboutLine here "extra \x27\x7d\x27" [],
            aboutLine here "syntax error at or near end of line" []]⟩
      | _ =>
          let e ← readEntry (100 * fuel)
          readEntries fuel { s with entries := e :: s.entries }

def Script.read (text : Octets) : Except Fault Script := do
  let found ← tokens text
  let lines := text.count '\n' + 1
  let (s, _) ← (readEntries (found.length + 1) ⟨[], []⟩).run ⟨found, found, lines, 0, false, false⟩
  return ⟨s.entries.reverse, s.functions⟩

end LessonAudit.Program.Rule
