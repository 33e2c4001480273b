import LessonAudit.Text.Blank
import LessonAudit.Yaml.Cursor
set_option autoImplicit false

namespace LessonAudit.Yaml

inductive Style where
  | plain
  | quoted
  | block
  | bare
deriving DecidableEq, Repr

def breaks (n : Nat) : List Char :=
  List.replicate n '\n'

def fold (further : Nat) : List Char :=
  if further = 0 then [' '] else breaks further

namespace Plain

structure State where
  cursor : Cursor
  text : List Char
  spaces : List Char
  broken : Bool
  further : Nat

def stops (inFlow : Bool) (c next : Char) : Bool :=
  isSpaceOrEnd c || (c == ':' && (isSpaceOrEnd next || (inFlow && isFlow next))) ||
    (inFlow && isFlow c)

def run (inFlow : Bool) (count : Nat) : List Char → Nat
  | [] => count
  | [c] => if stops inFlow c endMark then count else count + 1
  | c :: next :: rest =>
      if stops inFlow c next then count else run inFlow (count + 1) (next :: rest)

def joint (s : State) : List Char :=
  if s.cursor.fresh then (if s.broken then fold s.further else []) else s.spaces

def addRun (s : State) (n : Nat) : State :=
  ⟨s.cursor.skip n, (s.cursor.rest.take n).reverse ++ joint s ++ s.text, [], false, 0⟩

def skipBlanks (indent : Int) : Nat → State → Except Fault State
  | 0, s => .ok s
  | fuel + 1, s =>
      let c := s.cursor
      if isSpace c.peek then
        if !c.fresh then
          skipBlanks indent fuel { s with cursor := c.skipSpace, spaces := c.peek :: s.spaces }
        else if (c.column : Int) < indent && c.peek == '\t' then
          match c.skipGap true with
          | .error fault => .error fault
          | .ok gap =>
              if isBreakOrEnd gap.cursor.peek then
                skipBlanks indent fuel { s with cursor := gap.cursor }
              else .error .tabIndentation
        else skipBlanks indent fuel { s with cursor := c.skipSpace }
      else if isBreak c.peek then
        if c.fresh then
          skipBlanks indent fuel { s with cursor := c.skipBreak, further := s.further + 1 }
        else skipBlanks indent fuel { s with cursor := c.skipBreak, spaces := [], broken := true }
      else .ok s

def loop (inFlow : Bool) (indent : Int) : Nat → State → Except Fault State
  | 0, s => .ok s
  | fuel + 1, s =>
      let c := s.cursor
      if c.fresh && c.atMark || c.peek == '#' then .ok s
      else if inFlow && c.peek == '-' && isFlow (c.peekAt 1) then .error .indicator
      else
        let n := run inFlow 0 c.rest
        let s := if n = 0 then s else addRun s n
        if !(isSpace s.cursor.peek || isBreak s.cursor.peek) then .ok s
        else
          match skipBlanks indent (fuel + 1) s with
          | .error fault => .error fault
          | .ok s =>
              if !inFlow && decide ((s.cursor.column : Int) < indent) then .ok s
              else loop inFlow indent fuel s

def read (inFlow : Bool) (indent : Int) (c : Cursor) : Except Fault (String × Cursor) :=
  match loop inFlow indent (c.rest.length + 1) ⟨c, [], [], false, 0⟩ with
  | .error fault => .error fault
  | .ok s => if s.text.isEmpty then .error .indicator
             else .ok (String.ofList s.text.reverse, s.cursor)

end Plain

namespace Quoted

def simpleEscape (c : Char) : Option Char :=
  match c with
  | '0' => some '\x00'
  | 'a' => some '\x07'
  | 'b' => some '\x08'
  | 't' => some '\t'
  | '\t' => some '\t'
  | 'n' => some '\n'
  | 'v' => some '\x0b'
  | 'f' => some '\x0c'
  | 'r' => some '\r'
  | 'e' => some '\x1b'
  | ' ' => some ' '
  | '"' => some '"'
  | '/' => some '/'
  | '\\' => some '\\'
  | 'N' => some (Char.ofNat 0x85)
  | '_' => some (Char.ofNat 0xA0)
  | 'L' => some (Char.ofNat 0x2028)
  | 'P' => some (Char.ofNat 0x2029)
  | _ => none

def digitCount (c : Char) : Option Nat :=
  match c with
  | 'x' => some 2
  | 'u' => some 4
  | 'U' => some 8
  | _ => none

def hexValue (c : Char) : Option Nat :=
  if '0' ≤ c ∧ c ≤ '9' then some (c.toNat - 48)
  else if 'a' ≤ c ∧ c ≤ 'f' then some (c.toNat - 87)
  else if 'A' ≤ c ∧ c ≤ 'F' then some (c.toNat - 55)
  else none

def hexNumber (cs : List Char) : Option Nat :=
  cs.foldl (fun n c => n.bind fun n => (hexValue c).map fun d => 16 * n + d) (some 0)

def readEscape (c : Cursor) : Except Fault (Char × Cursor) :=
  match digitCount (c.peekAt 1) with
  | none =>
      match simpleEscape (c.peekAt 1) with
      | some x => .ok (x, c.skip 2)
      | none => .error .escape
  | some count =>
      let digits := (c.rest.drop 2).take count
      match hexNumber digits with
      | some code =>
          if digits.length = count ∧ Nat.isValidChar code then
            .ok (Char.ofNat code, c.skip (2 + count))
          else .error .escape
      | none => .error .escape

def run (single : Bool) : Nat → Cursor → List Char → Except Fault (Cursor × List Char × Bool)
  | 0, c, text => .ok (c, text, false)
  | fuel + 1, c, text =>
      let x := c.peek
      if isSpaceOrEnd x then .ok (c, text, false)
      else if single && x == '\x27' then
        if c.peekAt 1 == '\x27' then run single fuel (c.skip 2) (x :: text)
        else .ok (c, text, false)
      else if !single && x == '"' then .ok (c, text, false)
      else if !single && x == '\\' then
        if isBreak (c.peekAt 1) then .ok ((c.skip 1).skipBreak, text, true)
        else
          match readEscape c with
          | .error fault => .error fault
          | .ok (y, next) => run single fuel next (y :: text)
      else run single fuel (c.skip 1) (x :: text)

structure Blanks where
  cursor : Cursor
  apart : Bool
  spaces : List Char
  broken : Bool
  further : Nat

def skipBlanks (indent : Int) : Nat → Blanks → Except Fault Blanks
  | 0, b => .ok b
  | fuel + 1, b =>
      let c := b.cursor
      if isSpace c.peek then
        if b.apart then
          if c.peek == '\t' && decide ((c.column : Int) < indent) then .error .tabIndentation
          else skipBlanks indent fuel { b with cursor := c.skipSpace }
        else skipBlanks indent fuel { b with cursor := c.skipSpace, spaces := c.peek :: b.spaces }
      else if isBreak c.peek then
        if b.apart then
          skipBlanks indent fuel { b with cursor := c.skipBreak, further := b.further + 1 }
        else
          skipBlanks indent fuel
            { b with cursor := c.skipBreak, apart := true, spaces := [], broken := true }
      else .ok b

def joint (b : Blanks) : List Char :=
  if !b.apart then b.spaces
  else if b.broken then fold b.further
  else breaks b.further

def loop (single : Bool) (indent : Int) :
    Nat → Cursor → List Char → Except Fault (List Char × Cursor)
  | 0, _, _ => .error .unclosedQuote
  | fuel + 1, c, text =>
      if c.atDocumentMark then .error .documentMark
      else if c.atEnd then .error .unclosedQuote
      else if (c.column : Int) < indent then .error .indentation
      else
        match run single (c.rest.length + 1) c text with
        | .error fault => .error fault
        | .ok (c, text, escaped) =>
            if c.peek == (if single then '\x27' else '"') then .ok (text, c.skip 1)
            else
              match skipBlanks indent (c.rest.length + 1) ⟨c, escaped, [], false, 0⟩ with
              | .error fault => .error fault
              | .ok b => loop single indent fuel b.cursor (joint b ++ text)

def read (single : Bool) (indent : Int) (c : Cursor) : Except Fault (String × Cursor) :=
  match loop single indent (c.rest.length + 1) (c.skip 1) [] with
  | .error fault => .error fault
  | .ok (text, after) => .ok (String.ofList text.reverse, after)

end Quoted

namespace Block

inductive Chomp where
  | clip
  | strip
  | keep
deriving DecidableEq

def chomp? (c : Char) : Option Chomp :=
  if c == '+' then some .keep else if c == '-' then some .strip else none

def increment? (c : Cursor) : Except Fault (Nat × Cursor) :=
  if c.peek.isDigit then
    if c.peek == '0' then .error .blockHeader else .ok (c.peek.toNat - 48, c.skip 1)
  else .ok (0, c)

def header (c : Cursor) : Except Fault (Chomp × Nat × Cursor) :=
  match chomp? c.peek with
  | some chomp => (increment? (c.skip 1)).map fun (n, c) => (chomp, n, c)
  | none => do
      let (n, c) ← increment? c
      if n = 0 then .ok (.clip, n, c)
      else
        match chomp? c.peek with
        | some chomp => .ok (chomp, n, c.skip 1)
        | none => .ok (.clip, n, c)

def skipIndent (indent : Nat) : Nat → Cursor → Nat → Cursor × Nat
  | 0, c, count => (c, count)
  | fuel + 1, c, count =>
      let blanks := (c.rest.takeWhile (· == ' ')).length
      let c := c.skipMany (min blanks (indent - c.column))
      if isBreak c.peek then skipIndent indent fuel c.skipBreak (count + 1) else (c, count)

def findIndent : Nat → Cursor → Nat → Nat → Cursor × Nat × Nat
  | 0, c, widest, count => (c, widest, count)
  | fuel + 1, c, widest, count =>
      let c := c.skipMany (c.rest.takeWhile (· == ' ')).length
      let widest := max widest c.column
      if isBreak c.peek then findIndent fuel c.skipBreak widest (count + 1)
      else (c, widest, count)

structure State where
  cursor : Cursor
  text : List Char
  broken : Bool
  further : Nat
  blankLine : Bool

def joint (literal : Bool) (s : State) (blank : Bool) : List Char :=
  if !literal && s.broken && !s.blankLine && !blank then fold s.further
  else breaks s.further ++ (if s.broken then ['\n'] else [])

def lines (literal : Bool) (indent : Nat) : Nat → State → State
  | 0, s => s
  | fuel + 1, s =>
      let c := s.cursor
      if c.column ≠ indent || c.atEnd || (indent == 0 && c.isDocumentMark '.') then s
      else
        let blank := isSpace c.peek
        let line := c.rest.takeWhile fun x => !isBreakOrEnd x
        let text := line.reverse ++ joint literal s blank ++ s.text
        let c := c.skip line.length
        if c.atEnd then ⟨c, text, false, 0, blank⟩
        else
          let (c, count) := skipIndent indent (fuel + 1) c.skipBreak 0
          lines literal indent fuel ⟨c, text, true, count, blank⟩

def tail (chomp : Chomp) (indent : Nat) (s : State) : List Char :=
  let last :=
    if chomp = .strip then []
    else
      (if s.cursor.atEnd && decide (max indent 1 ≤ s.cursor.column) then ['\n'] else []) ++
        (if s.broken then ['\n'] else [])
  (if chomp = .keep then breaks s.further else []) ++ last

def emptyText (chomp : Chomp) (sameLine : Bool) (count : Nat) : List Char :=
  if chomp = .strip || sameLine then []
  else if chomp = .keep && count ≠ 0 then breaks count
  else ['\n']

def read (literal : Bool) (outer : Int) (start : Cursor) :
    Except Fault (Style × String × Cursor) := do
  let (chomp, increment, c) ← header (start.skip 1)
  let gap ← c.skipGap true
  if !isBreakOrEnd gap.cursor.peek then .error .blockHeader
  else
    let c := if isBreak gap.cursor.peek then gap.cursor.skipBreak else gap.cursor
    if c.peek == '\t' then .error .tabIndentation
    else
      let (c, indent, count) :=
        if increment = 0 then
          let (c, widest, count) := findIndent (c.rest.length + 1) c 0 0
          let least := (outer + 1).toNat
          (c, max (max widest least) (if outer > 0 then 1 else 0), count)
        else
          let indent := if outer ≥ 0 then outer.toNat + increment else increment
          let (c, count) := skipIndent indent (c.rest.length + 1) c 0
          (c, indent, count)
      if c.atEnd then
        .ok (.block, String.ofList (emptyText chomp (c.line == start.line) count), c)
      else if c.column < indent && decide ((c.column : Int) > outer) then .error .indentation
      else
        let s := lines literal indent (c.rest.length + 1) ⟨c, [], false, count, false⟩
        let text := (tail chomp indent s ++ s.text).reverse
        let bare := !literal && indent == 0 && !text.all Text.isBlank
        .ok (if bare then .bare else .block, String.ofList text, s.cursor)

end Block
end LessonAudit.Yaml
