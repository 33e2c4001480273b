import LessonAudit.Yaml.Tag
set_option autoImplicit false

namespace LessonAudit.Yaml

inductive Lexeme where
  | documentStart
  | documentEnd
  | directive
  | tagDirective (handle start : String)
  | blockList
  | blockMapping
  | blockEnd
  | flowList
  | flowListEnd
  | flowMapping
  | flowMappingEnd
  | entry
  | flowEntry
  | key
  | value
  | alias (name : String)
  | anchor (name : String)
  | tag (handle suffix : String)
  | scalar (style : Style) (text : String)
deriving DecidableEq, Repr

structure Token where
  lexeme : Lexeme
  column : Nat
deriving Repr

namespace Scan

structure Indent where
  column : Int
  block : Bool

structure Candidate where
  possible : Bool
  needed : Bool
  position : Nat
  index : Nat
  line : Nat
  column : Nat

def Candidate.none : Candidate := ⟨false, false, 0, 0, 0, 0⟩

/-- The state between two tokens. The tokens that a key may still be put in front of are in
`queue`, behind `settled` others. `outer` has a place for each open bracket, innermost first, with
the candidate around it. `pairs` has one for each open list in brackets, which tells that a pair
without braces is open in it; such a pair gets tokens for braces, but not behind an open brace or
a question mark, which `braced` tells. A value may stand right behind the colon at `adjacent`. -/
structure State where
  cursor : Cursor
  settled : Nat
  queue : Array Token
  indent : Int
  indents : List Indent
  keyAllowed : Bool
  candidate : Candidate
  outer : List Candidate
  pairs : List Bool
  braced : Bool
  adjacent : Nat

def State.start (c : Cursor) : State :=
  ⟨c, 0, Array.mkEmpty 16, -1, [], true, .none, [], [], false, 0⟩

namespace State

def inFlow (s : State) : Bool :=
  !s.outer.isEmpty

def push (s : State) (lexeme : Lexeme) (column : Nat) : State :=
  { s with queue := s.queue.push ⟨lexeme, column⟩ }

def count (s : State) : Nat :=
  s.settled + s.queue.size

def insert (s : State) (position : Nat) (lexeme : Lexeme) (column : Nat) : State :=
  { s with queue := s.queue.insertIdxIfInBounds (position - s.settled) ⟨lexeme, column⟩ }

def withCursor (s : State) (c : Cursor) : State :=
  { s with cursor := c }

def allowKey (s : State) (allowed : Bool) : State :=
  { s with keyAllowed := allowed }

def saveKey (s : State) : State :=
  if s.keyAllowed then
    let c := s.cursor
    let inBlock := match s.indents with
      | [] => false
      | i :: _ => i.block
    let needed := !s.inFlow && s.indent == (c.column : Int) && inBlock
    { s with candidate := ⟨true, needed, s.count, c.index, c.line, c.column⟩ }
  else s

def dropKey (s : State) : Except Fault State :=
  if s.candidate.possible && s.candidate.needed then .error .keyWithoutValue
  else .ok { s with candidate := { s.candidate with possible := false } }

def expireKey (s : State) : Except Fault State :=
  let k := s.candidate
  if k.possible && !s.inFlow &&
      (decide (k.line < s.cursor.line) || decide (k.index + 1024 < s.cursor.index)) then
    s.dropKey
  else .ok s

def firstCandidate (s : State) : Nat :=
  s.outer.foldl (fun least k => if k.possible then min least k.position else least)
    (if s.candidate.possible then min s.count s.candidate.position else s.count)

def settle (s : State) (done : List Token) : State × List Token :=
  let first := s.firstCandidate
  let ready := first - s.settled
  ({ s with settled := max first s.settled, queue := s.queue.extract ready s.queue.size },
    (s.queue.extract 0 ready).foldl (fun done t => t :: done) done)

def closeBlocks (column : Int) : List Indent → State → State
  | [], s => s
  | i :: more, s =>
      if s.indent > column then
        let s := { s with indent := i.column, indents := more }
        closeBlocks column more (if i.block then s.push .blockEnd s.cursor.column else s)
      else s

def unindent (s : State) (column : Int) : State :=
  if s.inFlow then s else closeBlocks column s.indents s

def leaveNonBlocks : List Indent → State → State
  | [], s => s
  | i :: more, s =>
      if i.block then s else leaveNonBlocks more { s with indent := i.column, indents := more }

def openBlock (s : State) (column : Nat) (position : Nat) (lexeme : Lexeme) : State :=
  if s.inFlow then s
  else
    let s :=
      match s.indents with
      | i :: more =>
          if s.indent ≤ (column : Int) && !i.block then
            { s with indent := i.column, indents := more }
          else s
      | [] => s
    if s.indent < (column : Int) then
      let s := { s with indents := ⟨s.indent, true⟩ :: s.indents, indent := column }
      s.insert position lexeme column
    else s

def indentByOne (s : State) : State :=
  match s.indents with
  | i :: _ =>
      if !s.inFlow && i.block then
        { s with indents := ⟨s.indent, false⟩ :: s.indents, indent := s.indent + 1 }
      else s
  | [] => s

end State

def toToken : Nat → State → Except Fault State
  | 0, s => .ok s
  | fuel + 1, s =>
      let c := s.cursor
      if c.peek == '\t' && !s.indents.isEmpty && c.fresh &&
          decide ((c.column : Int) < s.indent) then
        match c.skipGap true with
        | .error fault => .error fault
        | .ok gap =>
            if isBreakOrEnd gap.cursor.peek then toToken fuel (s.withCursor gap.cursor)
            else .error .tabIndentation
      else if isSpace c.peek then toToken fuel (s.withCursor c.skipSpace)
      else if isBreak c.peek then
        toToken fuel ((s.withCursor c.skipBreak).allowKey (s.keyAllowed || !s.inFlow))
      else if c.peek == '#' then toToken fuel (s.withCursor c.skipLine)
      else .ok s

def finish (s : State) : Except Fault State :=
  if (s.candidate :: s.outer).any fun k => k.possible && k.needed then .error .keyWithoutValue
  else .ok { s.unindent (-1) with candidate := .none, outer := [] }

def leaveDocument (s : State) : Except Fault State :=
  (s.unindent (-1)).dropKey.map fun s => s.allowKey false

def documentMark (s : State) (lexeme : Lexeme) : Except Fault State := do
  let s ← leaveDocument s
  let next := (s.push lexeme 0).withCursor (s.cursor.skip 3)
  if lexeme = .documentEnd then
    let gap ← next.cursor.skipGap true
    if isBreakOrEnd gap.cursor.peek then .ok (next.withCursor gap.cursor) else .error .documentMark
  else .ok next

def skipVersion (c : Cursor) : Except Fault Cursor :=
  let c := c.skipMany (c.rest.takeWhile isSpace).length
  let major := (c.rest.takeWhile Char.isDigit).length
  let minor := ((c.rest.drop (major + 1)).takeWhile Char.isDigit).length
  let isNumber (digits : Nat) := decide (1 ≤ digits) && decide (digits ≤ 9)
  if isNumber major && isNumber minor && c.peekAt major == '.' then
    .ok (c.skip (major + 1 + minor))
  else .error .directive

def directive (s : State) : Except Fault State := do
  let s ← leaveDocument s
  let c := s.cursor.skip 1
  let name := c.rest.takeWhile isNameChar
  let c := c.skip name.length
  if name.isEmpty || !isSpaceOrEnd c.peek then .error .directive
  else
    let (lexeme, c) ←
      if name = ['Y', 'A', 'M', 'L'] then (skipVersion c).map fun c => (Lexeme.directive, c)
      else if name = ['T', 'A', 'G'] then
        (Tag.readDirective c).map fun (handle, start, c) => (Lexeme.tagDirective handle start, c)
      else .ok (Lexeme.tagDirective "" "", c.skipLine)
    let gap ← c.skipGap true
    let c := gap.cursor
    if isBreakOrEnd c.peek then
      .ok ((s.push lexeme 0).withCursor (if isBreak c.peek then c.skipBreak else c))
    else .error .directive

def openFlow (s : State) (lexeme : Lexeme) (isList : Bool) : Except Fault State := do
  let s := s.saveKey.indentByOne
  if s.outer.length ≥ 255 then .error .depth
  else
    let s : State :=
      { s with
        outer := s.candidate :: s.outer, candidate := .none, keyAllowed := true,
        pairs := if isList then false :: s.pairs else s.pairs, braced := s.braced || !isList }
    let gap ← (s.cursor.skip 1).skipGap true
    .ok ((s.push lexeme s.cursor.column).withCursor gap.cursor)

def closePair (s : State) : State :=
  match s.pairs with
  | true :: more =>
      { s.push .flowMappingEnd s.cursor.column with pairs := false :: more, braced := false }
  | _ => s

def closeFlow (s : State) (lexeme : Lexeme) (isList : Bool) : Except Fault State := do
  let s ← s.dropKey
  let s :=
    match s.outer with
    | candidate :: outer => { s with outer := outer, candidate := candidate }
    | [] => s
  let column := s.cursor.column
  let s := if isList then { closePair s with pairs := s.pairs.tail } else s
  let gap ← (s.cursor.skip 1).skipGap true
  let s : State :=
    { s with
      keyAllowed := false, cursor := gap.cursor,
      adjacent := if s.inFlow then gap.cursor.index else s.adjacent }
  .ok (s.push lexeme column)

def flowEntry (s : State) : Except Fault State := do
  let s := closePair (← s.dropKey)
  let gap ← (s.cursor.skip 1).skipGap true
  .ok ((((s.allowKey true).push .flowEntry s.cursor.column)).withCursor gap.cursor)

def marginProperty (s : State) : Bool :=
  match s.queue.back? with
  | some ⟨.anchor _, 0⟩ | some ⟨.tag _ _, 0⟩ => s.cursor.column == 0 && decide (s.indent > -1)
  | _ => false

def blockEntry (s : State) : Except Fault State := do
  if s.inFlow || !s.keyAllowed then .error .entryPlace
  else if marginProperty s then .error .indentation
  else
    let column := s.cursor.column
    let s := (s.withCursor (s.cursor.skip 1)).openBlock column s.count .blockList
    let gap ← s.cursor.skipGap true
    if gap.tab && gap.cursor.peek == '-' && isSpaceOrEnd (gap.cursor.peekAt 1) then
      .error .tabIndentation
    else
      let s := s.withCursor gap.cursor
      let s := if isBreak s.cursor.peek || isFlow s.cursor.peek then s.indentByOne else s
      let s ← s.dropKey
      .ok ((s.allowKey true).push .entry column)

def skipKeyGap (apart : Bool) : Nat → State → Except Fault State
  | 0, s => .ok s
  | fuel + 1, s =>
      let c := s.cursor
      if c.peek == ' ' then skipKeyGap true fuel (s.withCursor c.skipSpace)
      else if isBreak c.peek then
        skipKeyGap true fuel ((s.withCursor c.skipBreak).allowKey (s.keyAllowed || !s.inFlow))
      else if c.peek == '#' then skipKeyGap apart fuel (s.withCursor c.skipLine)
      else if !apart || c.peek == '\t' then .error .tabIndentation
      else .ok s

def explicitKey (s : State) : Except Fault State := do
  if !s.inFlow && !s.keyAllowed then .error .keyPlace
  else
    let column := s.cursor.column
    let s := s.openBlock column s.count .blockMapping
    let s ← { s with braced := s.braced || s.inFlow }.dropKey
    let start := (s.allowKey (!s.inFlow)).withCursor (s.cursor.skip 1)
    let s ← skipKeyGap false (start.cursor.rest.length + 1) start
    .ok (s.push .key column)

def tabbedValue (c : Cursor) : Except Fault Cursor :=
  if c.peek == '\t' then do
    let gap ← c.skipGap true
    if !gap.space && (gap.cursor.peek == '-' || isNameChar gap.cursor.peek) then
      .error .tabIndentation
    else .ok gap.cursor
  else .ok c

def openPair (s : State) : State :=
  { s with pairs := true :: s.pairs.tail }

def keyValue (s : State) : Except Fault State := do
  let start := s.cursor
  let key := s.candidate
  let pair := !s.pairs.isEmpty && !s.braced
  let c ← tabbedValue (start.skip 1)
  let s := (if pair then openPair s else s).withCursor c
  if key.possible then
    if pair && decide (key.line < start.line) then .error .valuePlace
    else
      let s := s.insert key.position .key key.column
      let s := if pair then s.insert key.position .flowMapping key.column else s
      let s := s.openBlock key.column key.position .blockMapping
      let s := { s.indentByOne with candidate := { key with possible := false } }
      .ok ((s.allowKey false).push .value start.column)
  else if s.inFlow then
    let s := if pair then s.push .flowMapping start.column else s
    .ok ((s.allowKey false).push .value start.column)
  else if !s.keyAllowed then .error .valuePlace
  else
    let s := s.openBlock start.column s.count .blockMapping
    .ok ((s.indentByOne.allowKey true).push .value start.column)

def flowValue (s : State) : Except Fault State :=
  let next := s.cursor.peekAt 1
  if s.cursor.index ≠ s.adjacent && (next == '[' || next == '\x7b') then .error .valuePlace
  else keyValue s

def anchorOrAlias (s : State) (isAlias : Bool) : Except Fault State :=
  let s := s.saveKey.allowKey false
  let c := s.cursor.skip 1
  let name := c.rest.takeWhile fun x => !isSpaceOrEnd x && !isFlow x && x != Char.ofNat 0xFEFF
  if name.isEmpty then .error .anchorName
  else
    let text := String.ofList name
    let lexeme := if isAlias then Lexeme.alias text else Lexeme.anchor text
    .ok ((s.push lexeme s.cursor.column).withCursor (c.skip name.length))

def tagProperty (s : State) : Except Fault State := do
  let s := s.saveKey.allowKey false
  let (handle, suffix, next) ← Tag.read s.cursor
  if isSpaceOrEnd next.peek || (s.inFlow && isFlow next.peek) then
    .ok ((s.push (.tag handle suffix) s.cursor.column).withCursor next)
  else .error .tagName

def blockText (s : State) (literal : Bool) : Except Fault State := do
  let column := s.cursor.column
  let s := s.saveKey.allowKey true
  let s := State.leaveNonBlocks s.indents s
  let (style, text, c) ← Block.read literal s.indent s.cursor
  .ok ((s.push (.scalar style text) column).withCursor c)

def afterQuote (s : State) (line : Nat) (c : Cursor) : Bool :=
  isBreakOrEnd c.peek ||
    (s.inFlow && (c.peek == ',' || c.peek == '\x7d' || c.peek == ']' || c.peek == ':')) ||
    (!s.inFlow && c.peek == ':' && line == c.line)

def quotedText (s : State) (single : Bool) : Except Fault State := do
  let start := s.cursor
  let s := s.saveKey.allowKey false
  let (text, c) ← Quoted.read single s.indent start
  let gap ← c.skipGap true
  if !afterQuote s start.line gap.cursor then .error .trailingText
  else
    let s ← toToken (gap.cursor.rest.length + 1) (s.withCursor gap.cursor)
    let s := { s with adjacent := s.cursor.index }
    .ok (s.push (.scalar .quoted text) start.column)

def plainText (s : State) : Except Fault State := do
  let column := s.cursor.column
  let s := s.saveKey.allowKey false
  let s := State.leaveNonBlocks s.indents s
  let indent := s.indent + 1
  if s.inFlow && decide ((column : Int) < indent) then .error .indentation
  else
    let (text, c) ← Plain.read s.inFlow indent s.cursor
    .ok (((s.allowKey c.fresh).push (.scalar .plain text) column).withCursor c)

def token (s : State) : Except Fault State :=
  let c := s.cursor
  let x := c.peek
  let next := c.peekAt 1
  let blankNext := isSpaceOrEnd next
  if c.column = 0 && x == '%' then directive s
  else if c.isDocumentMark '-' then documentMark s .documentStart
  else if c.isDocumentMark '.' then documentMark s .documentEnd
  else if (c.column : Int) < s.indent then .error .indentation
  else if x == '[' then openFlow s .flowList true
  else if x == '\x7b' then openFlow s .flowMapping false
  else if x == ']' then closeFlow s .flowListEnd true
  else if x == '\x7d' then closeFlow s .flowMappingEnd false
  else if x == ',' then flowEntry s
  else if x == '-' && blankNext then blockEntry s
  else if x == '?' && blankNext then explicitKey s
  else if x == ':' && blankNext then keyValue s
  else if x == ':' && s.inFlow && (isFlow next || c.index == s.adjacent) then flowValue s
  else if x == '*' then anchorOrAlias s true
  else if x == '&' then anchorOrAlias s false
  else if x == '!' then tagProperty s
  else if x == '|' && !s.inFlow then blockText s true
  else if x == '>' && !s.inFlow then blockText s false
  else if x == '\x27' then quotedText s true
  else if x == '"' then quotedText s false
  else if x == '%' || x == '@' || x == '\x60' then .error .indicator
  else plainText s

def approach (s : State) : Except Fault State := do
  let s ← toToken (s.cursor.rest.length + 1) s
  let s ← s.expireKey
  .ok (s.unindent s.cursor.column)

def run : Nat → State → List Token → List Token × Option Fault
  | 0, _, done => (done.reverse, none)
  | fuel + 1, s, done =>
      match s.expireKey with
      | .error fault => (done.reverse, some fault)
      | .ok s =>
          let (s, done) := s.settle done
          match approach s with
          | .error fault => (done.reverse, some fault)
          | .ok s =>
              if s.cursor.atEnd then
                match finish s with
                | .error fault => (done.reverse, some fault)
                | .ok s => ((s.settle done).2.reverse, none)
              else
                match token s with
                | .error fault => (done.reverse, some fault)
                | .ok s => run fuel s done

end Scan

def tokens (cs : List Char) : List Token × Option Fault :=
  let c := Cursor.ofText cs
  Scan.run (c.rest.length + 1) (.start c) []

end LessonAudit.Yaml
