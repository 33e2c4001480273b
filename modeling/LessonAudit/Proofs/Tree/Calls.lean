import LessonAudit.Proofs.Dict
import LessonAudit.Proofs.Tree.Demands
set_option autoImplicit false

namespace LessonAudit.Tree.Pattern

open Dict (put given mem_of_mem_insert)

variable {p q inner : Pattern} {field value name : String} {asked : Demand}
  {calls calls' : List (String × Demand)}

def ask (p : Pattern) : String × Demand → Pattern
  | (field, .text value) => p.withLiteral field value
  | (field, .record inner) => p.withNested field inner

def asking (calls : List (String × Demand)) : Pattern :=
  calls.foldl ask any

inductive Built : Pattern → Prop
  | any : Built any
  | literal {p : Pattern} {field value : String} (built : p.Built) : Built (p.withLiteral field value)
  | nested {p inner : Pattern} {field : String} (built : p.Built) (inside : inner.Built) :
      Built (p.withNested field inner)

inductive Lawful : Pattern → Prop
  | intro {p : Pattern} (increasing : Dict.Increasing p.demands)
      (inside : ∀ name inner, (name, .record inner) ∈ p.demands → inner.Lawful) : p.Lawful

theorem eq_of_demands_eq (same : p.demands = q.demands) : p = q := by
  induction p generalizing q with
  | any =>
      cases q with
      | any => rfl
      | literal | nested => cases same
  | literal field value rest ih =>
      cases q with
      | any => cases same
      | nested => simp [demands] at same
      | literal =>
          obtain ⟨first, later⟩ := List.cons.inj same
          cases first
          rw [ih later]
  | nested field inner rest _ ih =>
      cases q with
      | any => cases same
      | literal => simp [demands] at same
      | nested =>
          obtain ⟨first, later⟩ := List.cons.inj same
          cases first
          rw [ih later]

theorem sizeOf_lt_of_mem (member : (name, .record inner) ∈ p.demands) :
    sizeOf inner < sizeOf p := by
  induction p with
  | any => cases member
  | literal field value rest ih =>
      rcases List.mem_cons.1 member with first | later
      · cases first
      · have smaller := ih later
        simp only [literal.sizeOf_spec]
        omega
  | nested field asked rest _ ih =>
      simp only [nested.sizeOf_spec]
      rcases List.mem_cons.1 member with first | later
      · cases first
        omega
      · have smaller := ih later
        omega

theorem demands_induction {motive : Pattern → Prop}
    (step : ∀ p, (∀ name inner, (name, .record inner) ∈ p.demands → motive inner) → motive p)
    (p : Pattern) : motive p :=
  step p fun _ inner _ => demands_induction step inner
termination_by sizeOf p
decreasing_by exact sizeOf_lt_of_mem ‹_›

theorem demands_withLiteral (p : Pattern) (field value : String) :
    (p.withLiteral field value).demands = Dict.insert field (.text value) p.demands := by
  induction p with
  | any => rfl
  | literal f v rest ih | nested f inner rest _ ih =>
      simp only [withLiteral, demands, Dict.insert]
      split
      · rfl
      · split
        · rfl
        · rw [demands, ih]

theorem demands_withNested (p : Pattern) (field : String) (inner : Pattern) :
    (p.withNested field inner).demands = Dict.insert field (.record inner) p.demands := by
  induction p with
  | any => rfl
  | literal f v rest ih | nested f found rest _ ih =>
      simp only [withNested, demands, Dict.insert]
      split
      · rfl
      · split
        · rfl
        · rw [demands, ih]

theorem demands_ask (p : Pattern) (call : String × Demand) :
    (p.ask call).demands = Dict.insert call.1 call.2 p.demands := by
  obtain ⟨field, asked⟩ := call
  cases asked with
  | text value => exact p.demands_withLiteral field value
  | record inner => exact p.demands_withNested field inner

theorem demands_foldl_ask (p : Pattern) (calls : List (String × Demand)) :
    (calls.foldl ask p).demands = put p.demands calls := by
  induction calls generalizing p with
  | nil => rfl
  | cons call calls ih => rw [List.foldl_cons, ih, demands_ask, put, put, List.foldl_cons]

theorem demands_asking (calls : List (String × Demand)) : (asking calls).demands = put [] calls :=
  demands_foldl_ask any calls

theorem asking_eq_iff :
    asking calls = asking calls' ↔
      ∀ name, (given calls name).getLast? = (given calls' name).getLast? := by
  constructor
  · intro same name
    have demands : put [] calls = put [] calls' := by rw [← demands_asking, same, demands_asking]
    have found := congrArg (Dict.get? · name) demands
    simpa [Dict.get?_put] using found
  · intro same
    refine eq_of_demands_eq ?_
    rw [demands_asking, demands_asking]
    exact Dict.eq_of_get?_eq (Dict.put_increasing .nil) (Dict.put_increasing .nil) fun name => by
      simp [Dict.get?_put, same name]

theorem Lawful.ask {call : String × Demand} (lawful : p.Lawful)
    (inside : ∀ name inner, call = (name, .record inner) → inner.Lawful) :
    (p.ask call).Lawful := by
  cases lawful with
  | intro increasing known_lawful =>
      refine .intro ?_ fun name inner member => ?_
      · rw [demands_ask]
        exact increasing.insert _ _
      · rw [demands_ask] at member
        rcases mem_of_mem_insert member with new | known
        · exact inside name inner new.symm
        · exact known_lawful name inner known

theorem Built.lawful (built : p.Built) : p.Lawful := by
  induction built with
  | any => exact .intro .nil nofun
  | @literal p field value _ ih =>
      have lawful : (p.ask (field, .text value)).Lawful := ih.ask nofun
      exact lawful
  | @nested p inner field _ _ ih inside =>
      have lawful : (p.ask (field, .record inner)).Lawful := ih.ask fun name found same => by
        cases same
        exact inside
      exact lawful

theorem Built.foldl_ask (built : p.Built)
    (inside : ∀ name inner, (name, .record inner) ∈ calls → inner.Built) :
    (calls.foldl Pattern.ask p).Built := by
  induction calls generalizing p with
  | nil => exact built
  | cons call calls ih =>
      refine ih ?_ fun name inner member => inside name inner (List.mem_cons_of_mem _ member)
      obtain ⟨field, asked⟩ := call
      cases asked with
      | text value => exact built.literal
      | record inner => exact built.nested (inside field inner List.mem_cons_self)

theorem built_asking (inside : ∀ name inner, (name, .record inner) ∈ calls → inner.Built) :
    (asking calls).Built :=
  Built.any.foldl_ask inside

end LessonAudit.Tree.Pattern
