set_option autoImplicit false

namespace LessonAudit.Yaml

inductive Fault where
  | indentation
  | tabIndentation
  | comment
  | documentMark
  | unclosedQuote
  | escape
  | trailingText
  | blockHeader
  | anchorName
  | tagName
  | directive
  | bracket
  | depth
  | indicator
  | keyPlace
  | valuePlace
  | entryPlace
  | keyWithoutValue
  | content
  | unknownAnchor
  | aliasCount
  | keyKind
  | repeatedKey
  | mergeValue
  | tagMismatch
  | severalDocuments
deriving DecidableEq, Repr

def Fault.message : Fault → String
  | indentation => "wrong indentation"
  | tabIndentation => "a tab stands in the indentation"
  | comment => "a comment needs a blank before it"
  | documentMark => "a document mark stands inside a text"
  | unclosedQuote => "a quoted text does not end"
  | escape => "unknown escape in a quoted text"
  | trailingText => "text follows the end of a value"
  | blockHeader => "wrong header of a block text"
  | anchorName => "an anchor or alias has no name"
  | tagName => "wrong tag"
  | directive => "wrong directive"
  | bracket => "brackets do not match"
  | depth => "values are nested too deeply"
  | indicator => "a text cannot start with this character"
  | keyPlace => "a key cannot stand here"
  | valuePlace => "a value cannot stand here"
  | entryPlace => "a list entry cannot stand here"
  | keyWithoutValue => "a key has no value"
  | content => "a value is expected"
  | unknownAnchor => "an alias names no anchor before it"
  | aliasCount => "aliases repeat too much"
  | keyKind => "a key is not a text"
  | repeatedKey => "a key is repeated"
  | mergeValue => "only mappings can be merged"
  | tagMismatch => "a tag does not fit its value"
  | severalDocuments => "more than one document"

structure Cursor where
  rest : List Char
  index : Nat
  line : Nat
  column : Nat
  fresh : Bool

def isBreak (c : Char) : Bool :=
  c == '\n' || c == '\r'

def endMark : Char := '\x00'

def isBreakOrEnd (c : Char) : Bool :=
  isBreak c || c == endMark

def isSpace (c : Char) : Bool :=
  c == ' ' || c == '\t'

def isSpaceOrEnd (c : Char) : Bool :=
  isSpace c || isBreakOrEnd c

def isFlow (c : Char) : Bool :=
  c == ',' || c == '[' || c == ']' || c == '\x7b' || c == '\x7d'

def isNameChar (c : Char) : Bool :=
  c.isAlphanum || c == '_' || c == '-'

namespace Cursor

def ofText (cs : List Char) : Cursor :=
  ⟨cs.takeWhile (· != endMark), 0, 0, 0, true⟩

def peekAt (c : Cursor) (ahead : Nat) : Char :=
  c.rest.getD ahead endMark

def peek (c : Cursor) : Char :=
  c.peekAt 0

def atEnd (c : Cursor) : Bool :=
  c.rest.isEmpty

def skipMany (c : Cursor) (n : Nat) : Cursor :=
  { c with rest := c.rest.drop n, index := c.index + n, column := c.column + n }

def skipSpace (c : Cursor) : Cursor :=
  c.skipMany 1

def skip (c : Cursor) (n : Nat) : Cursor :=
  { c.skipMany n with fresh := false }

def skipBreak (c : Cursor) : Cursor :=
  let n := if c.peek == '\r' && c.peekAt 1 == '\n' then 2 else 1
  ⟨c.rest.drop n, c.index + n, c.line + 1, 0, true⟩

def isTriple (c : Cursor) (mark : Char) : Bool :=
  c.peek == mark && c.peekAt 1 == mark && c.peekAt 2 == mark && isSpaceOrEnd (c.peekAt 3)

def atMark (c : Cursor) : Bool :=
  c.isTriple '-' || c.isTriple '.'

def isDocumentMark (c : Cursor) (mark : Char) : Bool :=
  c.column == 0 && c.isTriple mark

def atDocumentMark (c : Cursor) : Bool :=
  c.column == 0 && c.atMark

def skipLine (c : Cursor) : Cursor :=
  c.skipMany (c.rest.takeWhile fun x => !isBreakOrEnd x).length

structure Gap where
  cursor : Cursor
  tab : Bool
  space : Bool

def skipGap (c : Cursor) (tabs : Bool) : Except Fault Gap :=
  let run := c.rest.takeWhile fun x => x == ' ' || (tabs && x == '\t')
  let next := c.skipMany run.length
  let gap : Gap := ⟨next, run.contains '\t', run.contains ' '⟩
  if next.peek == '#' then
    if run.isEmpty then .error .comment else .ok { gap with cursor := next.skipLine }
  else .ok gap

end Cursor
end LessonAudit.Yaml
