import LessonAudit.Json.Value
set_option autoImplicit false

namespace LessonAudit.Json

inductive Fault where
  | malformed
  | truncated
  | misshapen
deriving DecidableEq, Repr

/-- What may stand at each place of a text, where `σ` tells the places apart: the admitted kinds
of value, the places of items and members, the names that may come once only, and the names that
have to come. -/
structure Schema (σ : Type) where
  admits : σ → Kind → Bool
  item : σ → σ
  member : σ → String → σ
  once : σ → String → Bool
  needs : σ → List String

def Schema.free : Schema Unit where
  admits _ _ := true
  item _ := ()
  member _ _ := ()
  once _ _ := false
  needs _ := []

namespace Reader

def isSpace (c : Char) : Bool :=
  c == ' ' || c == '\t' || c == '\n' || c == '\r'

def skipSpace (cs : List Char) : List Char :=
  cs.dropWhile isSpace

def unexpected : List Char → Fault
  | [] => .truncated
  | _ :: _ => .malformed

def expect : List Char → List Char → Except Fault (List Char)
  | [], cs => .ok cs
  | _ :: _, [] => .error .truncated
  | w :: word, c :: cs => if w = c then expect word cs else .error .malformed

/-- Where a reader stands inside a quoted text: `digits` are hexadecimal digits of a code unit,
`count` of them still to come, behind a first unit of a pair if there is one; `pairMark` and
`pairLetter` are the start of the second unit. -/
inductive Place where
  | plain
  | escape
  | digits (first : Option Nat) (count value : Nat)
  | pairMark (first : Nat)
  | pairLetter (first : Nat)

def simpleEscape (c : Char) : Option Char :=
  match c with
  | '"' => some '"'
  | '\\' => some '\\'
  | '/' => some '/'
  | 'b' => some (Char.ofNat 8)
  | 'f' => some (Char.ofNat 12)
  | 'n' => some '\n'
  | 'r' => some '\r'
  | 't' => some '\t'
  | _ => none

def hexValue (c : Char) : Option Nat :=
  if '0' ≤ c ∧ c ≤ '9' then some (c.toNat - 48)
  else if 'a' ≤ c ∧ c ≤ 'f' then some (c.toNat - 87)
  else if 'A' ≤ c ∧ c ≤ 'F' then some (c.toNat - 55)
  else none

def hasFourBytes (cs : List Char) : Bool :=
  decide (4 ≤ (cs.take 4).foldl (fun bytes c => bytes + c.utf8Size) 0)

def readText (place : Place) (done : List Char) : List Char → Except Fault (String × List Char)
  | [] => .error .truncated
  | c :: cs =>
      match place with
      | .plain =>
          if c = '"' then .ok (String.ofList done.reverse, cs)
          else if c = '\\' then readText .escape done cs
          else if c.toNat < 32 then .error .malformed
          else readText .plain (c :: done) cs
      | .escape =>
          if c = 'u' then
            if hasFourBytes cs then readText (.digits none 4 0) done cs else .error .truncated
          else
            match simpleEscape c with
            | some x => readText .plain (x :: done) cs
            | none => .error .malformed
      | .digits first count value =>
          match hexValue c with
          | none => .error .malformed
          | some d =>
              let unit := 16 * value + d
              if count > 1 then readText (.digits first (count - 1) unit) done cs
              else
                match first with
                | none =>
                    if unit < 0xD800 ∨ 0xDFFF < unit then
                      readText .plain (Char.ofNat unit :: done) cs
                    else if unit < 0xDC00 then readText (.pairMark unit) done cs
                    else .error .malformed
                | some high =>
                    if 0xDC00 ≤ unit ∧ unit ≤ 0xDFFF then
                      let code := 0x10000 + (high - 0xD800) * 0x400 + (unit - 0xDC00)
                      readText .plain (Char.ofNat code :: done) cs
                    else .error .malformed
      | .pairMark high =>
          if c = '\\' then readText (.pairLetter high) done cs else .error .malformed
      | .pairLetter high =>
          if c = 'u' then
            if hasFourBytes cs then readText (.digits (some high) 4 0) done cs
            else .error .truncated
          else .error .malformed

def digitsOf (cs : List Char) : List Char × List Char :=
  (cs.takeWhile Char.isDigit, cs.dropWhile Char.isDigit)

def readExponent (cs : List Char) : Except Fault (Int × List Char) :=
  let (below, cs) :=
    match cs with
    | '+' :: rest => (false, rest)
    | '-' :: rest => (true, rest)
    | rest => (false, rest)
  match digitsOf cs with
  | ([], rest) => .error (unexpected rest)
  | (digits, rest) =>
      let size : Int := (digits.foldl (fun n c => n * 10 + Number.digitValue c) 0 : Nat)
      .ok (if below then -size else size, rest)

def readFraction (cs : List Char) : Except Fault (List Char × List Char) :=
  match cs with
  | '.' :: rest =>
      match digitsOf rest with
      | ([], after) => .error (unexpected after)
      | found => .ok found
  | rest => .ok ([], rest)

def readScale (cs : List Char) : Except Fault (Option Int × List Char) :=
  match cs with
  | 'e' :: rest | 'E' :: rest => (readExponent rest).map fun (n, after) => (some n, after)
  | rest => .ok (none, rest)

def readNumber (negative : Bool) (cs : List Char) : Except Fault (Number × List Char) :=
  match digitsOf cs with
  | ([], rest) => .error (unexpected rest)
  | ('0' :: _ :: _, _) => .error .malformed
  | (whole, rest) => do
      let (fraction, rest) ← readFraction rest
      let (exponent, rest) ← readScale rest
      match Number.ofLiteral negative whole fraction exponent with
      | some n => .ok (n, rest)
      | none => .error .malformed

def readScalar (c : Char) (cs : List Char) : Except Fault (Written × List Char) :=
  if c = 'n' then (expect ['u', 'l', 'l'] cs).map fun rest => (.null, rest)
  else if c = 't' then (expect ['r', 'u', 'e'] cs).map fun rest => (.flag true, rest)
  else if c = 'f' then (expect ['a', 'l', 's', 'e'] cs).map fun rest => (.flag false, rest)
  else if c = '"' then (readText .plain [] cs).map fun (s, rest) => (.text s, rest)
  else if c = '-' then (readNumber true cs).map fun (n, rest) => (.number n, rest)
  else if c.isDigit then (readNumber false (c :: cs)).map fun (n, rest) => (.number n, rest)
  else .error .malformed

def admitted {σ : Type} (schema : Schema σ) (place : σ)
    (read : Except Fault (Written × List Char)) : Except Fault (Written × List Char) := do
  let (value, rest) ← read
  if schema.admits place value.kind then .ok (value, rest) else .error .misshapen

def closed {σ : Type} (schema : Schema σ) (place : σ) (members : List (String × Written))
    (rest : List Char) : Except Fault (Written × List Char) :=
  if (schema.needs place).all fun name => members.any fun member => member.1 == name then
    .ok (.record members, rest)
  else .error .misshapen

mutual

/-- One value with the blanks before it. `levels` lists and records may still be opened inside
each other; `fuel` bounds the number of calls, of which a text needs at most two a character. -/
def readValue {σ : Type} (schema : Schema σ) (place : σ) (fuel levels : Nat) (cs : List Char) :
    Except Fault (Written × List Char) :=
  match fuel with
  | 0 => .error .truncated
  | fuel + 1 =>
      match skipSpace cs with
      | [] => .error .truncated
      | c :: rest =>
          if c = '[' then
            if !schema.admits place .list then .error .misshapen
            else
              match levels with
              | 0 => .error .malformed
              | levels + 1 =>
                  match skipSpace rest with
                  | ']' :: after => .ok (.list [], after)
                  | _ => readItems schema (schema.item place) fuel levels [] rest
          else if c = '{' then
            if !schema.admits place .record then .error .misshapen
            else
              match levels with
              | 0 => .error .malformed
              | levels + 1 =>
                  match skipSpace rest with
                  | '}' :: after => closed schema place [] after
                  | _ => readMembers schema place fuel levels [] rest
          else admitted schema place (readScalar c rest)

def readItems {σ : Type} (schema : Schema σ) (place : σ) (fuel levels : Nat)
    (done : List Written) (cs : List Char) : Except Fault (Written × List Char) :=
  match fuel with
  | 0 => .error .truncated
  | fuel + 1 =>
      match readValue schema place fuel levels cs with
      | .error fault => .error fault
      | .ok (item, rest) =>
          match skipSpace rest with
          | ']' :: after => .ok (.list (item :: done).reverse, after)
          | ',' :: after => readItems schema place fuel levels (item :: done) after
          | other => .error (unexpected other)

def readMembers {σ : Type} (schema : Schema σ) (place : σ) (fuel levels : Nat)
    (done : List (String × Written)) (cs : List Char) : Except Fault (Written × List Char) :=
  match fuel with
  | 0 => .error .truncated
  | fuel + 1 =>
      match skipSpace cs with
      | '"' :: start =>
          match readText .plain [] start with
          | .error fault => .error fault
          | .ok (name, rest) =>
              if schema.once place name && done.any fun member => member.1 == name then
                .error .misshapen
              else
                match skipSpace rest with
                | ':' :: after =>
                    match readValue schema (schema.member place name) fuel levels after with
                    | .error fault => .error fault
                    | .ok (value, rest) =>
                        match skipSpace rest with
                        | '}' :: after =>
                            closed schema place ((name, value) :: done).reverse after
                        | ',' :: after =>
                            readMembers schema place fuel levels ((name, value) :: done) after
                        | other => .error (unexpected other)
                | other => .error (unexpected other)
      | other => .error (unexpected other)

end

end Reader

def read {σ : Type} (schema : Schema σ) (place : σ) (text : List Char) : Except Fault Written :=
  match Reader.readValue schema place (2 * text.length + 2) 127 text with
  | .error fault => .error fault
  | .ok (value, rest) =>
      match Reader.skipSpace rest with
      | [] => .ok value
      | _ :: _ => .error .malformed

def Value.ofText? (text : String) : Except Fault Value :=
  (read Schema.free () text.toList).map Written.value

end LessonAudit.Json
