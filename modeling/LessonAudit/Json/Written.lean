import LessonAudit.Json.Number
set_option autoImplicit false

namespace LessonAudit.Json

/-- A JSON value as written: members stand in the order of the text and a name may be repeated. -/
inductive Written where
  | null
  | flag (value : Bool)
  | number (value : Number)
  | text (value : String)
  | list (items : List Written)
  | record (members : List (String × Written))
deriving Repr

inductive Kind where
  | null
  | flag
  | number
  | text
  | list
  | record
deriving DecidableEq, Repr

namespace Written

def kind : Written → Kind
  | null => .null
  | flag _ => .flag
  | number _ => .number
  | text _ => .text
  | list _ => .list
  | record _ => .record

def hexDigit (n : Nat) : Char :=
  if n < 10 then Char.ofNat (48 + n) else Char.ofNat (87 + n)

def escapeChar (c : Char) : List Char :=
  if c = '"' then ['\\', '"']
  else if c = '\\' then ['\\', '\\']
  else if c.toNat = 8 then ['\\', 'b']
  else if c.toNat = 9 then ['\\', 't']
  else if c.toNat = 10 then ['\\', 'n']
  else if c.toNat = 12 then ['\\', 'f']
  else if c.toNat = 13 then ['\\', 'r']
  else if c.toNat < 32 then ['\\', 'u', '0', '0', hexDigit (c.toNat / 16), hexDigit (c.toNat % 16)]
  else [c]

def quote (s : String) : List Char :=
  '"' :: (s.toList.flatMap escapeChar ++ ['"'])

def scalar : Written → List Char
  | flag true => ['t', 'r', 'u', 'e']
  | flag false => ['f', 'a', 'l', 's', 'e']
  | number n => n.write
  | text s => quote s
  | _ => ['n', 'u', 'l', 'l']

mutual

def compact : Written → List Char
  | list items => '[' :: compactItems items
  | record members => '{' :: compactMembers members
  | other => scalar other

def compactItems : List Written → List Char
  | [] => [']']
  | [item] => compact item ++ [']']
  | item :: more => compact item ++ ',' :: compactItems more

def compactMembers : List (String × Written) → List Char
  | [] => ['}']
  | [(name, value)] => quote name ++ ':' :: (compact value ++ ['}'])
  | (name, value) :: more => quote name ++ ':' :: (compact value ++ ',' :: compactMembers more)

end

def lineBreak (depth : Nat) : List Char :=
  '\n' :: List.replicate (2 * depth) ' '

mutual

def spread (depth : Nat) : Written → List Char
  | list [] => ['[', ']']
  | record [] => ['{', '}']
  | list (item :: more) =>
      '[' :: (lineBreak (depth + 1) ++ spread (depth + 1) item ++ spreadItems depth more)
  | record ((name, value) :: more) =>
      '{' :: (lineBreak (depth + 1) ++ quote name ++ ':' :: ' ' ::
        (spread (depth + 1) value ++ spreadMembers depth more))
  | other => scalar other

def spreadItems (depth : Nat) : List Written → List Char
  | [] => lineBreak depth ++ [']']
  | item :: more =>
      ',' :: (lineBreak (depth + 1) ++ spread (depth + 1) item ++ spreadItems depth more)

def spreadMembers (depth : Nat) : List (String × Written) → List Char
  | [] => lineBreak depth ++ ['}']
  | (name, value) :: more =>
      ',' :: (lineBreak (depth + 1) ++ quote name ++ ':' :: ' ' ::
        (spread (depth + 1) value ++ spreadMembers depth more))

end

def compactText (w : Written) : String :=
  String.ofList w.compact

def spreadText (w : Written) : String :=
  String.ofList (w.spread 0)

end Written
end LessonAudit.Json
