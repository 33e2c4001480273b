import LessonAudit.Proofs.Json.Values
import LessonAudit.Proofs.Tree.Calls
set_option autoImplicit false

namespace LessonAudit.Tree.Pattern

open Json (Value)
open Dict (given)

mutual

inductive Weaker : Pattern → Pattern → Prop
  | intro {q p : Pattern}
      (each : ∀ name asked, (name, asked) ∈ q.demands → Covers p name asked) : Weaker q p

inductive Covers : Pattern → String → Demand → Prop
  | text {p : Pattern} {name value : String} (member : (name, .text value) ∈ p.demands) :
      Covers p name (.text value)
  | record {p inner found : Pattern} {name : String} (member : (name, .record found) ∈ p.demands)
      (weaker : Weaker inner found) : Covers p name (.record inner)

end

variable {p q inner : Pattern} {r : Record} {name : String} {asked : Demand}

theorem Weaker.covers (weaker : q.Weaker p) (member : (name, asked) ∈ q.demands) :
    p.Covers name asked := by
  cases weaker with
  | intro each => exact each name asked member

def Satisfied : Demand → Option Field → Prop
  | .text value, found => found = some (.text value)
  | .record inner, found => ∃ r, found = some (.record r) ∧ inner.admits r = true

theorem admits_iff_satisfied :
    p.admits r = true ↔ ∀ call ∈ p.demands, Satisfied call.2 (r.field call.1) := by
  induction p with
  | any => simp [admits, demands]
  | literal field value rest ih =>
      rw [admits_literal_iff, ih, demands, List.forall_mem_cons]
      rfl
  | nested field inner rest _ ih =>
      rw [admits_nested_iff, ih, demands, List.forall_mem_cons]
      rfl

theorem Weaker.admits (weaker : q.Weaker p) (admitted : p.admits r = true) : q.admits r = true := by
  induction q using demands_induction generalizing p r with
  | step q ih =>
      rw [admits_iff_satisfied] at admitted ⊢
      rintro ⟨name, asked⟩ member
      cases weaker.covers member with
      | text known => exact admitted _ known
      | record known deeper =>
          obtain ⟨found, held, inside⟩ := admitted _ known
          exact ⟨found, held, ih _ _ member deeper inside⟩

def least : Pattern → Dict Value
  | any => []
  | literal field value rest => (field, .text value) :: rest.least
  | nested field inner rest => (field, .record inner.least) :: rest.least

def leastValue : Demand → Value
  | .text value => .text value
  | .record inner => .record inner.least

def leastField : Demand → Field
  | .text value => .text value
  | .record inner => .record (.members inner.least)

theorem least_eq (p : Pattern) :
    p.least = p.demands.map fun pair => (pair.1, leastValue pair.2) := by
  induction p with
  | any => rfl
  | literal field value rest ih | nested field inner rest _ ih =>
      rw [least, ih]
      rfl

theorem field_least (p : Pattern) (name : String) :
    (Record.members p.least).field name = (Dict.get? p.demands name).map leastField := by
  induction p with
  | any => rfl
  | literal field value rest ih | nested field inner rest _ ih =>
      rw [Record.field] at ih ⊢
      rw [least, demands, Dict.get?_cons, Dict.get?_cons]
      split
      · rfl
      · exact ih

theorem Lawful.least (lawful : p.Lawful) : (Value.record p.least).Lawful := by
  induction lawful with
  | intro increasing _ ih =>
      rw [least_eq]
      refine .record (List.pairwise_map.2 increasing) fun member known => ?_
      obtain ⟨⟨name, asked⟩, present, rfl⟩ := List.mem_map.1 known
      cases asked with
      | text value => exact .text
      | record inner => exact ih name inner present

theorem Lawful.admits_least (lawful : p.Lawful) : p.admits (.members p.least) = true := by
  induction lawful with
  | intro increasing _ ih =>
      rw [admits_iff_satisfied]
      rintro ⟨name, asked⟩ member
      rw [field_least, increasing.get?_eq_some_iff.2 member]
      cases asked with
      | text value => rfl
      | record inner => exact ⟨_, rfl, ih name inner member⟩

theorem leastField_eq_text_iff {value : String} :
    leastField asked = .text value ↔ asked = .text value := by
  cases asked <;> simp [leastField]

theorem leastField_eq_record_iff :
    leastField asked = .record r ↔ ∃ inner, asked = .record inner ∧ r = .members inner.least := by
  cases asked <;> simp [leastField, eq_comm]

theorem weaker_of_admits_least (admitted : q.admits (.members p.least) = true) : q.Weaker p := by
  induction q using demands_induction generalizing p with
  | step q ih =>
      rw [admits_iff_satisfied] at admitted
      refine .intro fun name asked member => ?_
      have met := admitted (name, asked) member
      rw [field_least] at met
      cases asked with
      | text value =>
          obtain ⟨found, held, same⟩ := Option.map_eq_some_iff.1 met
          obtain rfl := leastField_eq_text_iff.1 same
          exact .text (Dict.mem_of_get?_eq_some held)
      | record inner =>
          obtain ⟨r, led, inside⟩ := met
          obtain ⟨found, held, same⟩ := Option.map_eq_some_iff.1 led
          obtain ⟨inner', rfl, rfl⟩ := leastField_eq_record_iff.1 same
          exact .record (Dict.mem_of_get?_eq_some held) (ih name inner member inside)

theorem mem_of_weaker (increasing : Dict.Increasing p.demands) (below : p.Weaker q)
    (above : q.Weaker p)
    (same : ∀ inner found, (name, .record inner) ∈ p.demands → (name, .record found) ∈ q.demands →
      inner.Weaker found → found.Weaker inner → inner = found)
    (member : (name, asked) ∈ p.demands) : (name, asked) ∈ q.demands := by
  cases below.covers member with
  | text known => exact known
  | @record _ inner found _ known deeper =>
      cases above.covers known with
      | @record _ _ again _ known' deeper' =>
          -- a field is asked for once, so what covers the field in turn is what it covers
          have once := (increasing.get?_eq_some_iff.2 known').symm.trans
            (increasing.get?_eq_some_iff.2 member)
          cases once
          rwa [same _ _ member known deeper deeper']

theorem Weaker.antisymm (p_lawful : p.Lawful) (q_lawful : q.Lawful) (below : p.Weaker q)
    (above : q.Weaker p) : p = q := by
  induction p_lawful generalizing q with
  | @intro p increasing inside ih =>
      obtain ⟨increasing', inside'⟩ := q_lawful
      refine eq_of_demands_eq (Dict.eq_of_get?_eq increasing increasing' fun name => ?_)
      refine Option.ext fun asked => ?_
      rw [increasing.get?_eq_some_iff, increasing'.get?_eq_some_iff]
      have same (inner found : Pattern) (member : (name, .record inner) ∈ p.demands)
          (known : (name, .record found) ∈ q.demands) (deeper : inner.Weaker found)
          (deeper' : found.Weaker inner) : inner = found :=
        ih name inner member (inside' name found known) deeper deeper'
      constructor
      · exact mem_of_weaker increasing below above same
      · refine mem_of_weaker increasing' above below fun found inner known member deeper' deeper => ?_
        exact (same inner found member known deeper deeper').symm

section

variable (p_lawful : p.Lawful) (q_lawful : q.Lawful)

include p_lawful

theorem Lawful.weaker_iff :
    q.Weaker p ↔ ∀ d, (Value.record d).Lawful → p.admits (.members d) = true →
      q.admits (.members d) = true :=
  ⟨fun weaker _ _ admitted => weaker.admits admitted,
    fun all => weaker_of_admits_least (all p.least p_lawful.least p_lawful.admits_least)⟩

include q_lawful

theorem Lawful.eq_iff :
    p = q ↔ ∀ d, (Value.record d).Lawful → p.admits (.members d) = q.admits (.members d) := by
  constructor
  · rintro rfl d _
    rfl
  · intro same
    refine Weaker.antisymm p_lawful q_lawful ?_ ?_
    · exact q_lawful.weaker_iff.2 fun d lawful admitted => (same d lawful).trans admitted
    · exact p_lawful.weaker_iff.2 fun d lawful admitted => (same d lawful).symm.trans admitted

end

/-- A pattern admits every JSON record that another one admits exactly if it is weaker; it then
admits every record that the other admits. So patterns are equal exactly if they admit the same JSON
records, and those of two series of calls are so exactly if the last calls for each field ask the
same. -/
theorem equal_iff_same_records :
    (∀ p q : Pattern, p.Built → q.Built →
      ((∀ d, (Value.record d).Lawful → p.admits (.members d) = true →
          q.admits (.members d) = true) ↔ q.Weaker p) ∧
        (q.Weaker p → ∀ r, p.admits r = true → q.admits r = true) ∧
        ((p == q) = true ↔
          ∀ d, (Value.record d).Lawful → p.admits (.members d) = q.admits (.members d))) ∧
    ∀ calls calls' : List (String × Demand),
      (∀ name inner, (name, .record inner) ∈ calls ++ calls' → inner.Built) →
        ((∀ d, (Value.record d).Lawful →
            (asking calls).admits (.members d) = (asking calls').admits (.members d)) ↔
          ∀ name, (given calls name).getLast? = (given calls' name).getLast?) := by
  constructor
  · intro p q p_built q_built
    refine ⟨p_built.lawful.weaker_iff.symm, fun weaker r => weaker.admits, ?_⟩
    rw [beq_iff_eq]
    exact p_built.lawful.eq_iff q_built.lawful
  · intro calls calls' inside
    have built : (asking calls).Built := built_asking fun name inner member =>
      inside name inner (List.mem_append_left _ member)
    have built' : (asking calls').Built := built_asking fun name inner member =>
      inside name inner (List.mem_append_right _ member)
    rw [← built.lawful.eq_iff built'.lawful, asking_eq_iff]

def callout : Pattern :=
  any.withNested "attr" (any.withLiteral "class" "callout")

def namedCallout : Pattern :=
  any.withNested "attr" ((any.withLiteral "id" "a").withLiteral "class" "callout")

theorem equal_iff_same_records_callout :
    namedCallout.Built ∧ callout.Built ∧ callout.Weaker namedCallout ∧
      (∀ d, (Value.record d).Lawful → namedCallout.admits (.members d) = true →
        callout.admits (.members d) = true) ∧
      (¬ ∀ d, (Value.record d).Lawful →
        namedCallout.admits (.members d) = callout.admits (.members d)) ∧
      ∀ d, (Value.record d).Lawful →
        (asking [("attr", .record callout), ("type", .text "p"), ("attr", .text "x")]).admits
            (.members d) =
          (asking [("attr", .text "x"), ("type", .text "q"), ("type", .text "p")]).admits
            (.members d) := by
  have named_built : namedCallout.Built := .nested .any (.literal (.literal .any))
  have built : callout.Built := .nested .any (.literal .any)
  obtain ⟨of_patterns, of_calls⟩ := equal_iff_same_records
  obtain ⟨weaker_iff, -, equal_iff⟩ := of_patterns namedCallout callout named_built built
  have weaker : callout.Weaker namedCallout := weaker_of_admits_least (by decide)
  refine ⟨named_built, built, weaker, weaker_iff.2 weaker, ?_, ?_⟩
  · rw [← equal_iff]
    decide
  · refine (of_calls _ _ ?_).2 fun name => ?_
    · intro name inner member
      obtain ⟨-, rfl⟩ : name = "attr" ∧ inner = callout := by simpa using member
      exact built
    · by_cases is_attr : "attr" = name
      · subst is_attr
        rfl
      · by_cases is_type : "type" = name
        · subst is_type
          rfl
        · simp [Dict.given_cons, is_attr, is_type]

end LessonAudit.Tree.Pattern
