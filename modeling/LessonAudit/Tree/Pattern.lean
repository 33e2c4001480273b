import LessonAudit.Tree.Field
set_option autoImplicit false

namespace LessonAudit.Tree

/-- A chain of demands in increasing order of the field, each field once. -/
inductive Pattern where
  | any
  | literal (field value : String) (rest : Pattern)
  | nested (field : String) (inner rest : Pattern)
deriving DecidableEq, Repr

namespace Pattern

def withLiteral (p : Pattern) (field value : String) : Pattern :=
  match p with
  | any => literal field value any
  | literal f v rest =>
      if field < f then literal field value (literal f v rest)
      else if field = f then literal field value rest
      else literal f v (rest.withLiteral field value)
  | nested f inner rest =>
      if field < f then literal field value (nested f inner rest)
      else if field = f then literal field value rest
      else nested f inner (rest.withLiteral field value)

def withNested (p : Pattern) (field : String) (asked : Pattern) : Pattern :=
  match p with
  | any => nested field asked any
  | literal f v rest =>
      if field < f then nested field asked (literal f v rest)
      else if field = f then nested field asked rest
      else literal f v (rest.withNested field asked)
  | nested f inner rest =>
      if field < f then nested field asked (nested f inner rest)
      else if field = f then nested field asked rest
      else nested f inner (rest.withNested field asked)

def ofKind (kind : String) : Pattern :=
  any.withLiteral "type" kind

def admits : Pattern → Record → Bool
  | any, _ => true
  | literal field value rest, r =>
      (match r.field field with
        | some (.text s) => s == value
        | _ => false) && rest.admits r
  | nested field inner rest, r =>
      (match r.field field with
        | some (.record found) => inner.admits found
        | _ => false) && rest.admits r

end Pattern

mutual

def Node.findAll (pattern : Pattern) : Node → List Node
  | n@⟨_, _, _, children, _⟩ =>
      let below := findAmong pattern children
      if pattern.admits (.node n) then n :: below else below

def Node.findAmong (pattern : Pattern) : List Node → List Node
  | [] => []
  | child :: more => child.findAll pattern ++ findAmong pattern more

end

end LessonAudit.Tree
