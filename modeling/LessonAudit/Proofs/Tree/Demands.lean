import LessonAudit.Tree.Decode
import LessonAudit.Tree.Pattern
set_option autoImplicit false

namespace LessonAudit.Tree

open Json (Value)

def Field.follow : Field → List String → Option Field
  | .record r, path => r.follow path
  | found, [] => some found
  | _, _ :: _ => none

namespace Record

variable {r : Record}

theorem follow_nil (r : Record) : r.follow [] = some (.record r) := by
  rw [follow]

theorem follow_cons (r : Record) (name : String) (path : List String) :
    r.follow (name :: path) = (r.field name).bind fun found => found.follow path := by
  cases held : r.field name with
  | none => simp [follow, held]
  | some found =>
      cases path with
      | nil => cases found <;> simp [follow, held, Field.follow]
      | cons next more => cases found <;> simp [follow, held, Field.follow]

theorem follow_singleton (r : Record) (name : String) : r.follow [name] = r.field name := by
  rw [follow_cons]
  cases r.field name with
  | none => rfl
  | some found => cases found <;> simp [Field.follow, follow_nil]

theorem follow_append (r : Record) (front back : List String) :
    r.follow (front ++ back) = (r.follow front).bind fun found => found.follow back := by
  induction front generalizing r with
  | nil => rw [List.nil_append, follow_nil, Option.bind_some, Field.follow]
  | cons name front ih =>
      rw [List.cons_append, follow_cons, follow_cons]
      cases r.field name with
      | none => rfl
      | some found =>
          cases found with
          | record inner => exact ih inner
          | text | number | flag => cases front <;> rfl

end Record

inductive Silent : Value → Prop
  | null : Silent .null
  | list (items : List Value) : Silent (.list items)
  | negative (n : Nat) : Silent (.number (.negative n))
  | double (x : Decimal.Double) : Silent (.number (.double x))

theorem Silent.ofValue?_eq_none {value : Value} (silent : Silent value) :
    Field.ofValue? value = none := by
  cases silent <;> rfl

inductive Record.Hides : Record → String → Prop
  | member {d : Dict Value} {name : String} {value : Value} (held : d.get? name = some value)
      (silent : Silent value) : Hides (.members d) name
  | extra {n : Node} {name : String} {value : Value} (free : name ∉ namedMembers)
      (held : n.extra.get? name = some value) (silent : Silent value) : Hides (.node n) name
  | children (n : Node) : Hides (.node n) "children"

theorem Record.Hides.field_eq_none {r : Record} {name : String} (hidden : r.Hides name) :
    r.field name = none := by
  cases hidden with
  | member held silent => rw [field, held, Option.bind_some, silent.ofValue?_eq_none]
  | extra free held silent =>
      simp only [namedMembers, List.mem_cons, List.not_mem_nil, or_false, not_or] at free
      obtain ⟨no_type, no_attr, no_options, no_children⟩ := free
      rw [field, if_neg no_type, if_neg no_attr, if_neg no_options, if_neg no_children, held,
        Option.bind_some, silent.ofValue?_eq_none]
  | children n => rfl

inductive Demand where
  | text (value : String)
  | record (inner : Pattern)

namespace Demand

/-- A record is asked for as such; what the inner pattern asks of it are demands of their own. -/
def MetBy : Demand → Option Field → Prop
  | text value, found => found = some (.text value)
  | record _, found => ∃ inner, found = some (.record inner)

end Demand

namespace Pattern

def demands : Pattern → List (String × Demand)
  | any => []
  | literal field value rest => (field, .text value) :: rest.demands
  | nested field inner rest => (field, .record inner) :: rest.demands

inductive Asks : Pattern → List String → Demand → Prop
  | here {p : Pattern} {name : String} {demand : Demand} (member : (name, demand) ∈ p.demands) :
      Asks p [name] demand
  | inside {p inner : Pattern} {name : String} {path : List String} {demand : Demand}
      (member : (name, .record inner) ∈ p.demands) (deeper : Asks inner path demand) :
      Asks p (name :: path) demand

section

variable {field value : String} {inner rest : Pattern} {path : List String} {demand : Demand}

theorem not_asks_any : ¬ any.Asks path demand := by
  intro asks
  cases asks with
  | here member => simp [demands] at member
  | inside member => simp [demands] at member

theorem Asks.mono {p : Pattern} (asks : rest.Asks path demand) (more : rest.demands ⊆ p.demands) :
    p.Asks path demand := by
  cases asks with
  | here member => exact .here (more member)
  | inside member deeper => exact .inside (more member) deeper

theorem asks_literal_iff : (literal field value rest).Asks path demand ↔
    path = [field] ∧ demand = .text value ∨ rest.Asks path demand := by
  constructor
  · intro asks
    cases asks with
    | here member =>
        rcases List.mem_cons.1 member with same | later
        · cases same
          exact .inl ⟨rfl, rfl⟩
        · exact .inr (.here later)
    | inside member deeper =>
        rcases List.mem_cons.1 member with same | later
        · cases same
        · exact .inr (.inside later deeper)
  · rintro (⟨rfl, rfl⟩ | later)
    · exact .here List.mem_cons_self
    · exact later.mono (List.subset_cons_self _ _)

theorem asks_nested_iff : (nested field inner rest).Asks path demand ↔
    path = [field] ∧ demand = .record inner ∨
      (∃ deeper, path = field :: deeper ∧ inner.Asks deeper demand) ∨ rest.Asks path demand := by
  constructor
  · intro asks
    cases asks with
    | here member =>
        rcases List.mem_cons.1 member with same | later
        · cases same
          exact .inl ⟨rfl, rfl⟩
        · exact .inr (.inr (.here later))
    | inside member deeper =>
        rcases List.mem_cons.1 member with same | later
        · cases same
          exact .inr (.inl ⟨_, rfl, deeper⟩)
        · exact .inr (.inr (.inside later deeper))
  · rintro (⟨rfl, rfl⟩ | ⟨deeper, rfl, asks⟩ | later)
    · exact .here List.mem_cons_self
    · exact .inside List.mem_cons_self asks
    · exact later.mono (List.subset_cons_self _ _)

end

theorem admits_literal_iff {field value : String} {rest : Pattern} {r : Record} :
    (literal field value rest).admits r = true ↔
      r.field field = some (.text value) ∧ rest.admits r = true := by
  rw [admits, Bool.and_eq_true]
  cases r.field field with
  | none => simp
  | some found => cases found <;> simp

theorem admits_nested_iff {field : String} {inner rest : Pattern} {r : Record} :
    (nested field inner rest).admits r = true ↔
      (∃ found, r.field field = some (.record found) ∧ inner.admits found = true) ∧
        rest.admits r = true := by
  rw [admits, Bool.and_eq_true]
  cases r.field field with
  | none => simp
  | some found => cases found <;> simp

theorem admits_congr {p : Pattern} {r r' : Record} (same : ∀ name, r.field name = r'.field name) :
    p.admits r = p.admits r' := by
  induction p with
  | any => rfl
  | literal field value rest ih => rw [admits, admits, same, ih]
  | nested field inner rest _ ih => rw [admits, admits, same, ih]

theorem admits_iff {p : Pattern} {r : Record} :
    p.admits r = true ↔ ∀ path demand, p.Asks path demand → demand.MetBy (r.follow path) := by
  induction p generalizing r with
  | any => simp [admits, not_asks_any]
  | literal field value rest ih =>
      rw [admits_literal_iff, ih]
      constructor
      · rintro ⟨held, later⟩ path demand asks
        rcases asks_literal_iff.1 asks with ⟨rfl, rfl⟩ | asked
        · exact (r.follow_singleton field).trans held
        · exact later path demand asked
      · intro met
        refine ⟨?_, fun path demand asks => met path demand (asks_literal_iff.2 (.inr asks))⟩
        exact (r.follow_singleton field).symm.trans (met _ _ (asks_literal_iff.2 (.inl ⟨rfl, rfl⟩)))
  | nested field inner rest ih_inner ih =>
      rw [admits_nested_iff, ih]
      constructor
      · rintro ⟨⟨found, held, admitted⟩, later⟩ path demand asks
        rcases asks_nested_iff.1 asks with ⟨rfl, rfl⟩ | ⟨deeper, rfl, asked⟩ | asked
        · exact ⟨found, (r.follow_singleton field).trans held⟩
        · rw [Record.follow_cons, held]
          exact ih_inner.1 admitted deeper demand asked
        · exact later path demand asked
      · intro met
        obtain ⟨found, led⟩ := met _ _ (asks_nested_iff.2 (.inl ⟨rfl, rfl⟩))
        have held : r.field field = some (.record found) := (r.follow_singleton field).symm.trans led
        refine ⟨⟨found, held, ih_inner.2 fun path demand asks => ?_⟩,
          fun path demand asks => met path demand (asks_nested_iff.2 (.inr (.inr asks)))⟩
        have deeper := met _ _ (asks_nested_iff.2 (.inr (.inl ⟨path, rfl, asks⟩)))
        rwa [Record.follow_cons, held] at deeper

theorem Asks.not_admits {p : Pattern} {r : Record} {path : List String} {demand : Demand}
    (asks : p.Asks path demand) (unmet : ¬ demand.MetBy (r.follow path)) : p.admits r = false := by
  rw [← Bool.not_eq_true]
  exact fun admitted => unmet (admits_iff.1 admitted path demand asks)

/-- A pattern admits a record exactly if each chain of names that leads to one of its demands leads
through the record to what meets it. What is no field meets no demand, what is no text meets no
demand for a text, and of a chain in two parts the second is followed from where the first leads. -/
theorem admits_iff_followed (p : Pattern) (r : Record) :
    (p.admits r = true ↔ ∀ path demand, p.Asks path demand → demand.MetBy (r.follow path)) ∧
      (∀ front name demand inner, p.Asks (front ++ [name]) demand →
        r.follow front = some (.record inner) → inner.Hides name → p.admits r = false) ∧
      (∀ path value found, p.Asks path (.text value) → r.follow path = some found →
        found.text? = none → p.admits r = false) ∧
      any.admits r = true ∧
      ∀ front back, r.follow (front ++ back) =
        match r.follow front with
        | some (.record inner) => inner.follow back
        | some found => if back = [] then some found else none
        | none => none := by
  refine ⟨admits_iff, ?_, ?_, rfl, ?_⟩
  · intro front name demand inner asks led hidden
    have absent : r.follow (front ++ [name]) = none := by
      rw [Record.follow_append, led, Option.bind_some, Field.follow, Record.follow_singleton,
        hidden.field_eq_none]
    refine asks.not_admits fun met => ?_
    rw [absent] at met
    cases demand with
    | text value => cases met
    | record asked => obtain ⟨found, none_found⟩ := met; cases none_found
  · intro path value found asks led no_text
    refine asks.not_admits fun met => ?_
    have text : found = .text value := Option.some.inj (led.symm.trans met)
    rw [text] at no_text
    cases no_text
  · intro front back
    rw [Record.follow_append]
    cases r.follow front with
    | none => rfl
    | some found => cases found <;> cases back <;> rfl

example :
    let classed (name : String) : Pattern := nested "attr" (literal "class" name any) any
    let quote := (Node.ofKind "blockquote").withAttr "class" "note"
    ((classed "note").admits (.node quote), (classed "callout").admits (.node quote),
      (classed "note").admits (.node (Node.ofKind "blockquote"))) = (true, false, false) := by decide

example : (nested "options" (literal "id" "null" any) any).admits
    (.node { Node.ofKind "p" with options := some [("id", .null)] }) = false := by decide

end Pattern
end LessonAudit.Tree
