import LessonAudit.Yaml.Scalar
set_option autoImplicit false

namespace LessonAudit.Yaml

inductive TagKind where
  | absent
  | nonspecific
  | text
  | notText
  | time
  | binary
  | other
deriving DecidableEq, Repr

namespace Tag

def core : String := "tag:yaml.org,2002:"

def kind (name : String) : TagKind :=
  if name = "!" then .nonspecific
  else if name = core ++ "str" then .text
  else if name = core ++ "timestamp" then .time
  else if name = core ++ "binary" then .binary
  else if ["int", "float", "bool", "null", "seq", "map"].any fun word => core ++ word == name then
    .notText
  else .other

def isVerbatimChar (c : Char) : Bool :=
  c.isAlphanum || "-_#;/?:@&=+$,.!~*'()[]%".toList.contains c

def isSuffixChar (c : Char) : Bool :=
  isVerbatimChar c && !isFlow c && c != '!'

def byte? (c : Cursor) : Option Nat :=
  if c.peek = '%' then Quoted.hexNumber [c.peekAt 1, c.peekAt 2] else none

def width? (byte : Nat) : Option Nat :=
  if byte < 0x80 then some 1
  else if byte < 0xC0 then none
  else if byte < 0xE0 then some 2
  else if byte < 0xF0 then some 3
  else if byte < 0xF8 then some 4
  else none

def moreBytes? : Nat → Nat → Cursor → Option (Nat × Cursor)
  | 0, code, c => some (code, c)
  | count + 1, code, c =>
      match byte? c with
      | some byte =>
          if byte / 0x40 = 2 then moreBytes? count (code * 0x100 + byte) (c.skip 3) else none
      | none => none

def readEscape (c : Cursor) : Except Fault (Char × Cursor) :=
  let found := do
    let byte ← byte? c
    let width ← width? byte
    moreBytes? (width - 1) byte (c.skip 3)
  match found with
  | some (code, after) =>
      if Nat.isValidChar code then .ok (Char.ofNat code, after) else .error .tagName
  | none => .error .tagName

def readChars (accepts : Char → Bool) :
    Nat → Cursor → List Char → Except Fault (List Char × Cursor)
  | 0, c, text => .ok (text.reverse, c)
  | fuel + 1, c, text =>
      if c.atEnd || !accepts c.peek then .ok (text.reverse, c)
      else if c.peek = '%' then
        match readEscape c with
        | .ok (x, after) => readChars accepts fuel after (x :: text)
        | .error fault => .error fault
      else readChars accepts fuel (c.skip 1) (c.peek :: text)

def readHandle (c : Cursor) : List Char × Cursor :=
  let name := (c.rest.drop 1).takeWhile isNameChar
  let after := c.skip (name.length + 1)
  if after.peek = '!' then ('!' :: name ++ ['!'], after.skip 1) else ('!' :: name, after)

def read (c : Cursor) : Except Fault (String × String × Cursor) := do
  let limit := c.rest.length
  if c.peekAt 1 = '<' then
    let (name, after) ← readChars isVerbatimChar limit (c.skip 2) []
    if after.peek = '>' then .ok ("", String.ofList name, after.skip 1) else .error .tagName
  else
    let (handle, after) := readHandle c
    if 2 ≤ handle.length && handle.getLast? == some '!' then
      let (suffix, after) ← readChars isSuffixChar limit after []
      if suffix.isEmpty then .error .tagName
      else .ok (String.ofList handle, String.ofList suffix, after)
    else
      let (suffix, after) ← readChars isSuffixChar limit after handle.tail.reverse
      if suffix.isEmpty then .ok ("", "!", after) else .ok ("!", String.ofList suffix, after)

def readDirective (c : Cursor) : Except Fault (String × String × Cursor) := do
  let c := c.skipMany (c.rest.takeWhile isSpace).length
  let (handle, after) := readHandle c
  let start := after.skipMany (after.rest.takeWhile isSpace).length
  let known := c.peek = '!' && (handle = ['!'] || handle.getLast? = some '!')
  if !known || !(start.peek = '!' || isSuffixChar start.peek) then .error .directive
  else
    let (first, rest) := if start.peek = '!' then (['!'], start.skip 1) else ([], start)
    let (word, after) ← readChars isVerbatimChar start.rest.length rest first
    if isSpaceOrEnd after.peek then .ok (String.ofList handle, String.ofList word, after)
    else .error .directive

abbrev Handles := List (String × String)

def name (handles : Handles) (handle suffix : String) : Except Fault String :=
  match handles.lookup handle with
  | some start => .ok (start ++ suffix)
  | none =>
      if handle = "!!" then .ok (core ++ suffix)
      else if handle = "!" || handle = "" then .ok (handle ++ suffix)
      else .error .tagName

end Tag
end LessonAudit.Yaml
