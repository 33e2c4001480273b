import LessonAudit.Program.Script.Source
set_option autoImplicit false

namespace LessonAudit.Program.Script

open Reading

structure Inner where
  closed : Reading (Option Command)
  whole : Reading (Option Command)

structure Setting where
  quoted : Bool
  braces : Bool
  inner : Bool
  parens : Option Nat
  isText : Bool
  literal : Bool
  mark : Option Mark

namespace Setting

def bare (literal : Bool) : Setting := ⟨false, false, false, none, false, literal, none⟩

def text (m : Mark) : Setting := ⟨true, false, false, none, true, false, some m⟩

def inBraces (s : Setting) (pattern : Bool) : Setting :=
  ⟨s.quoted && !pattern, true, false, none, false, false, s.mark⟩

def inQuotes (s : Setting) : Setting :=
  ⟨true, false, false, none, false, s.literal, s.mark⟩

def inCalculation (s : Setting) : Setting :=
  ⟨true, false, false, some 0, false, false, s.mark⟩

def atEnd (s : Setting) (done : Word) : Reading Word :=
  if s.parens.isSome then fail "Missing \x27))\x27"
  else if s.quoted && s.mark.isNone then fail "Unterminated quoted string"
  else if s.braces || (s.quoted && !s.isText) then fail "Missing \x27\x7d\x27"
  else return done

def isEscaped (s : Setting) (c : Char) : Bool :=
  c == '\\' || c == '\x60' || c == '$' || (c == '"' && !s.isText) || (c == '\x7d' && s.braces)

end Setting

def Source.checkMark (s : Source) (m : Mark) : Source :=
  let rest := if m.tabs then s.rest.dropWhile (· == '\t') else s.rest
  if m.text.isPrefixOf rest then
    match rest.drop m.text.length with
    | [] => { s with rest := [], after := some [], line := s.line + 1 }
    | '\n' :: more => { s with rest := [], after := some more, line := s.line + 1 }
    | _ => { s with rest := rest }
  else { s with rest := rest }

def isSpecial (c : Char) : Bool :=
  "@*#?-$!".toList.contains c

def nameInBraces : Reading (Option Octets × Bool) := do
  match ← peek with
  | none => return (none, false)
  | some c =>
      if isNameStart c then return (some (← takeWhile isNameChar), false)
      else if c.isDigit then return (some (← takeWhile Char.isDigit), false)
      else if c = '\x7d' then return (none, false)
      else
        let _ ← take
        if c ≠ '#' then return (if isSpecial c then some [c] else none, false)
        else
          match ← peek, (← get).rest.tail.head? with
          | some d, next =>
              if d.isDigit then return (some (← takeWhile Char.isDigit), true)
              else if isNameStart d then return (some (← takeWhile isNameChar), true)
              else if d ≠ '\x7d' && next = some '\x7d' then
                let _ ← take
                return (if isSpecial d then some [d] else none, true)
              else return (some ['#'], false)
          | none, _ => return (some ['#'], false)

def formInBraces : Reading (Form × Bool) := do
  let emptyToo ← takeIf ':'
  match ← take with
  | some '\x7d' => return (.plain, emptyToo)
  | some '-' => return (.fallback, emptyToo)
  | some '+' => return (.instead, emptyToo)
  | some '=' => return (.assign, emptyToo)
  | some '?' => return (.demand, emptyToo)
  | some '#' =>
      if emptyToo then return (.faulty, true) else return (.cut true (← takeIf '#'), false)
  | some '%' =>
      if emptyToo then return (.faulty, true) else return (.cut false (← takeIf '%'), false)
  | _ => return (.faulty, emptyToo)

def Form.isCut : Form → Bool
  | .cut .. => true
  | _ => false

def parameter (read : Setting → Reading Word) (s : Setting) : Reading Piece := do
  let (name, long) ← nameInBraces
  match name with
  | none =>
      let _ ← read (s.inBraces false)
      return .value [] .faulty false [] s.quoted
  | some name =>
      if long then
        if ← takeIf '\x7d' then return .value name .length false [] s.quoted
        else
          let _ ← read (s.inBraces false)
          return .value name .faulty false [] s.quoted
      else
        let (form, emptyToo) ← formInBraces
        let word ←
          if form = .plain && !emptyToo then pure [] else read (s.inBraces form.isCut)
        return .value name form emptyToo word s.quoted

def dollar (inner : Inner) (read : Setting → Reading Word) (s : Setting) :
    Reading (Option Piece) := do
  match ← peek with
  | none => return none
  | some c =>
      if c = '(' then
        let _ ← take
        if ← takeIf '(' then return some (.number (← read s.inCalculation) s.quoted)
        else return some (.output (← inner.closed) s.quoted)
      else if c = '\x7b' then
        let _ ← take
        return some (← parameter read s)
      else if isNameStart c then
        return some (.value (← takeWhile isNameChar) .plain false [] s.quoted)
      else if c.isDigit || isSpecial c then
        let _ ← take
        return some (.value [c] .plain false [] s.quoted)
      else return none

def backquoted (quoted : Bool) : Nat → Octets → Reading Octets
  | 0, _ => fail "EOF in backquote substitution"
  | fuel + 1, done => do
      let _ ← peek
      match ← take with
      | none => fail "EOF in backquote substitution"
      | some '\x60' => return done.reverse
      | some '\\' =>
          match ← take with
          | none => fail "EOF in backquote substitution"
          | some c =>
              if c = '\\' || c = '\x60' || c = '$' || (quoted && c == '"') then
                backquoted quoted fuel (c :: done)
              else backquoted quoted fuel (c :: '\\' :: done)
      | some c => backquoted quoted fuel (c :: done)

def readApart (inner : Inner) (text : Octets) : Reading (Option Command) := do
  let s ← get
  set { s with rest := text, line := 1, held := none, marks := [] }
  let body ← inner.whole
  modify fun t => { t with rest := s.rest, line := s.line, held := none, marks := s.marks }
  return body

def pieces (inner : Inner) : Nat → Setting → Word → Reading Word
  | 0, _, done => return done
  | fuel + 1, s, done => do
      match ← peek with
      | none => s.atEnd done
      | some c =>
          if !s.quoted && !s.braces && endsWord c then return done
          else
            let _ ← take
            let plain : Reading Word := pieces inner fuel s (done.add s.quoted c)
            if c = '\n' then
              match s.mark with
              | some m => modify fun source => source.checkMark m
              | none => pure ()
              plain
            else if c = '\x7d' && s.braces && !s.inner then return done
            else if c = '"' then
              if !s.quoted then
                let done ← pieces inner fuel s.inQuotes (.mark :: done)
                pieces inner fuel s (.mark :: done)
              else if s.isText || s.parens.isSome then plain
              else if s.braces then
                pieces inner fuel { s with inner := !s.inner } (.mark :: done)
              else return done
            else if c = '\x27' && !s.quoted then
              match ← takeUntil '\x27' ((← get).rest.length + 1) [] with
              | some octets =>
                  pieces inner fuel s (.mark :: .text octets.reverse true :: .mark :: done)
              | none => fail "Unterminated quoted string"
            else if c = '\\' then
              match ← take with
              | none => pieces inner fuel s (done.add true '\\')
              | some d =>
                  let done := if s.quoted && !s.isEscaped d then done.add true '\\' else done
                  pieces inner fuel s (done.add true d)
            else if c = '(' && s.parens.isSome then
              pieces inner fuel { s with parens := s.parens.map fun n => n + 1 }
                (done.add s.quoted c)
            else if c = ')' && s.parens.isSome then
              if s.parens = some 0 then
                if ← takeIf ')' then return done else plain
              else
                pieces inner fuel { s with parens := s.parens.map fun n => n - 1 }
                  (done.add s.quoted c)
            else if c = '$' && !s.literal then
              let read (t : Setting) : Reading Word := return (← pieces inner fuel t []).sealed
              match ← dollar inner read s with
              | some piece => pieces inner fuel s (piece :: done)
              | none => plain
            else if c = '\x60' && !s.literal then
              let text ← backquoted s.quoted ((← get).rest.length + 1) []
              let body ← readApart inner text
              pieces inner fuel s (.output body s.quoted :: done)
            else plain

def word (inner : Inner) (literal : Bool) : Reading Word := do
  return (← pieces inner ((← get).rest.length + 1) (.bare literal) []).sealed

def plainLines (m : Mark) : Nat → Octets → Reading Octets
  | 0, done => return done.reverse
  | fuel + 1, done => do
      modify fun s => s.checkMark m
      let s ← get
      let line := s.rest.takeWhile (· != '\n')
      match s.rest.drop line.length with
      | [] =>
          set { s with rest := [] }
          return (line.reverse ++ done).reverse
      | _ :: rest =>
          set { s with rest := rest, line := s.line + 1 }
          plainLines m fuel ('\n' :: line.reverse ++ done)

def readText (inner : Inner) (m : Mark) : Reading Unit := do
  let fuel := (← get).rest.length + 1
  let found ←
    if m.plain then
      let octets ← plainLines m fuel []
      pure [Piece.text octets true]
    else
      modify fun s => s.checkMark m
      pure (← pieces inner fuel (.text m) []).sealed
  modify fun s =>
    { s with
              rest := s.after.getD s.rest, after := none
              texts := s.texts.setIfInBounds m.number found }

def readTexts (inner : Inner) : Reading Unit := do
  let marks := (← get).marks
  modify fun s => { s with marks := [] }
  marks.forM (readText inner)

end LessonAudit.Program.Script
