import LessonAudit.Proofs.Tree.Demands
import LessonAudit.Proofs.Tree.RoundTrip
set_option autoImplicit false

namespace LessonAudit.Tree

open Json (Value Number inRange_of_isText)
open Dict (put given get?_put given_cons insert_insert_of_ne mem_of_mem_insert)

inductive Step where
  | attr (name value : String)
  | location (line : Nat)
  | child (c : Node)

namespace Step

def attr? : Step → Option (String × String)
  | attr name value => some (name, value)
  | _ => none

def line? : Step → Option Nat
  | location line => some line
  | _ => none

def child? : Step → Option Node
  | child c => some c
  | _ => none

inductive Apart : Step → Step → Prop
  | attr_attr {name name' value value' : String} (ne : name ≠ name') :
      Apart (attr name value) (attr name' value')
  | attr_location {name value : String} {line : Nat} : Apart (attr name value) (location line)
  | attr_child {name value : String} {c : Node} : Apart (attr name value) (child c)
  | location_child {line : Nat} {c : Node} : Apart (location line) (child c)
  | symm {s t : Step} (apart : Apart s t) : Apart t s

end Step

namespace Node

def step (n : Node) : Step → Node
  | .attr name value => n.withAttr name value
  | .location line => n.withLocation line
  | .child c => n.withChild c

def after (n : Node) (steps : List Step) : Node :=
  steps.foldl step n

def option (n : Node) (key : String) : Option Value :=
  n.options.bind fun options => options.get? key

inductive Made : Node → Prop
  | read {text : String} {n : Node} (reads : ofText? text = .ok n) : n.Made
  | ofKind (kind : String) : (ofKind kind).Made
  | attr {n : Node} {name value : String} (made : n.Made) : (n.withAttr name value).Made
  | location {n : Node} {line : Nat} (made : n.Made) (small : line < Number.naturalLimit) :
      (n.withLocation line).Made
  | child {n c : Node} (made : n.Made) (inside : c.Made) : (n.withChild c).Made

variable {n : Node} {name key : String} {line : Nat} {s t : Step} {steps : List Step}

theorem attrValue_eq_follow (n : Node) (name : String) :
    n.attrValue name = ((Record.node n).follow ["attr", name]).bind Field.text? := by
  have field : (Record.node n).field "attr" = n.attr.map fun d => .record (.attributes d) := rfl
  rw [Record.follow_cons, field, attrValue]
  cases n.attr with
  | none => rfl
  | some d =>
      have inner : (Record.attributes d).field name = (d.get? name).map .text := rfl
      simp only [Option.map_some, Option.bind_some, Field.follow, Record.follow_singleton, inner]
      cases d.get? name <;> rfl

def integer? : Value → Option Int
  | .number (.natural n) => some n
  | .number (.negative n) => some (-n)
  | _ => none

theorem natural?_eq_number? (value : Value) :
    natural? value = (Field.ofValue? value).bind Field.number? := by
  cases value with
  | number x => cases x <;> rfl
  | _ => rfl

theorem location_eq_follow (n : Node) :
    n.location = ((Record.node n).follow ["options", locationKey]).bind Field.number? := by
  have field : (Record.node n).field "options" = n.options.map fun d => .record (.members d) := rfl
  rw [Record.follow_cons, field, location]
  cases n.options with
  | none => rfl
  | some d =>
      have inner : (Record.members d).field locationKey =
          (d.get? locationKey).bind Field.ofValue? := rfl
      simp only [Option.map_some, Option.bind_some, Field.follow, Record.follow_singleton, inner,
        Option.bind_assoc]
      exact congrArg _ (funext natural?_eq_number?)

theorem location_eq_bind (n : Node) : n.location = (n.option locationKey).bind natural? := by
  rw [location, option, Option.bind_assoc]

theorem Lawful.withAttr {value : String} (lawful : n.Lawful) : (n.withAttr name value).Lawful := by
  cases lawful with
  | intro attr options extra unnamed children =>
      refine .intro ?_ options extra unnamed children
      rintro d ⟨⟩
      cases held : n.attr with
      | none => exact Dict.Increasing.insert .nil name value
      | some d => exact (attr d held).insert name value

theorem lawful_insert {d : Dict Value} {value : Value} (lawful : (Value.record d).Lawful)
    (inside : value.Lawful) : (Value.record (d.insert key value)).Lawful := by
  cases lawful with
  | record increasing known_lawful =>
      refine .record (increasing.insert key value) fun member known => ?_
      rcases mem_of_mem_insert known with rfl | known
      · exact inside
      · exact known_lawful member known

theorem Lawful.withLocation (lawful : n.Lawful) (small : line < Number.naturalLimit) :
    (n.withLocation line).Lawful := by
  cases lawful with
  | intro attr options extra unnamed children =>
      refine .intro attr ?_ extra unnamed children
      have whole : (Value.number (.natural line)).Lawful := .number small
      rintro d ⟨⟩
      cases held : n.options with
      | none => exact lawful_insert (.record .nil nofun) whole
      | some d => exact lawful_insert (options d held) whole

theorem Lawful.withChild {c : Node} (lawful : n.Lawful) (inside : c.Lawful) :
    (n.withChild c).Lawful := by
  cases lawful with
  | intro attr options extra unnamed children =>
      refine .intro attr options extra unnamed fun child known => ?_
      rcases List.mem_append.1 known with known | known
      · exact children child known
      · rwa [List.mem_singleton.1 known]

theorem Made.lawful (made : n.Made) : n.Lawful := by
  induction made with
  | read reads =>
      obtain ⟨w, is_text, -, denotes⟩ := ofText?_iff.1 reads
      exact denotes.lawful fun x => inRange_of_isText is_text
  | ofKind kind => exact .intro nofun nofun (.record .nil nofun) nofun nofun
  | attr _ ih => exact ih.withAttr
  | location _ small ih => exact ih.withLocation small
  | child _ _ ih inside => exact ih.withChild inside

theorem Lawful.option {value : Value} (lawful : n.Lawful) (held : n.option key = some value) :
    value.Lawful := by
  obtain ⟨d, present, found⟩ := Option.bind_eq_some_iff.1 held
  cases lawful with
  | intro _ options _ _ _ =>
      cases options d present with
      | record _ inside => exact inside _ (Dict.mem_of_get?_eq_some found)

theorem Made.location_eq_some_iff (made : n.Made) :
    n.location = some line ↔
      line < Number.naturalLimit ∧ (n.option locationKey).bind integer? = some (line : Int) := by
  rw [location_eq_bind]
  cases held : n.option locationKey with
  | none => simp
  | some value =>
      have lawful := made.lawful.option held
      cases lawful with
      | @number x in_range =>
          cases x with
          | natural k =>
              have small : k < Number.naturalLimit := in_range
              simp only [Option.bind_some, natural?, integer?, Option.some.injEq, Int.natCast_inj]
              exact ⟨fun same => ⟨same ▸ small, same⟩, And.right⟩
          | negative k =>
              have negative : 0 < k := in_range.1
              simp only [Option.bind_some, natural?, integer?, Option.some.injEq]
              constructor
              · nofun
              · omega
          | double x => simp [natural?, integer?]
      | _ => simp [natural?, integer?]

def filled {α : Type} (d : Option (Dict α)) : List (String × α) → Option (Dict α)
  | [] => d
  | pair :: pairs => some (put (d.getD []) (pair :: pairs))

def locationPair (line : Nat) : String × Value :=
  (locationKey, .number (.natural line))

theorem filled_cons {α : Type} (d : Option (Dict α)) (pair : String × α)
    (pairs : List (String × α)) :
    filled (some ((d.getD []).insert pair.1 pair.2)) pairs = filled d (pair :: pairs) := by
  cases pairs <;> rfl

theorem get?_filled {α : Type} (d : Option (Dict α)) (pairs : List (String × α)) (key : String) :
    (filled d pairs).bind (Dict.get? · key) =
      ((given pairs key).getLast?).or (d.bind (Dict.get? · key)) := by
  cases pairs with
  | nil => simp [filled]
  | cons pair pairs =>
      rw [filled, Option.bind_some, get?_put]
      cases d <;> rfl

theorem after_eq (n : Node) (steps : List Step) :
    n.after steps =
      { n with
        attr := filled n.attr (steps.filterMap Step.attr?)
        options := filled n.options ((steps.filterMap Step.line?).map locationPair)
        children := n.children ++ steps.filterMap Step.child? } := by
  induction steps generalizing n with
  | nil =>
      cases n
      simp [after, filled]
  | cons s steps ih =>
      change (n.step s).after steps = _
      rw [ih]
      cases s with
      | attr name value =>
          simp only [List.filterMap_cons, Step.attr?, Step.line?, Step.child?, step, withAttr,
            ← filled_cons]
      | location line =>
          simp only [List.filterMap_cons, Step.attr?, Step.line?, Step.child?, step, withLocation,
            List.map_cons, ← filled_cons]
          rfl
      | child c =>
          simp only [List.filterMap_cons, Step.attr?, Step.line?, Step.child?, step, withChild,
            List.append_assoc, List.singleton_append]

theorem given_locationPair (lines : List Nat) :
    given (lines.map locationPair) key =
      if key = locationKey then lines.map fun line => .number (.natural line) else [] := by
  induction lines with
  | nil => simp
  | cons line lines ih =>
      rw [List.map_cons, locationPair, given_cons, ih]
      by_cases same : key = locationKey
      · simp [same]
      · simp [same, Ne.symm same]

theorem option_after (n : Node) (steps : List Step) (key : String) :
    (n.after steps).option key =
      ((given ((steps.filterMap Step.line?).map locationPair) key).getLast?).or (n.option key) := by
  rw [after_eq]
  exact get?_filled ..

-- What can be asked of `n'` is what the last step that sets it says, or else what `n` says.
structure Follows (n : Node) (steps : List Step) (n' : Node) : Prop where
  kind : n'.kind = n.kind
  extra : n'.extra = n.extra
  children : n'.children = n.children ++ steps.filterMap Step.child?
  attr : ∀ name, n'.attrValue name =
    ((given (steps.filterMap Step.attr?) name).getLast?).or (n.attrValue name)
  location : n'.location = ((steps.filterMap Step.line?).getLast?).or n.location
  option : ∀ key, key ≠ locationKey → n'.option key = n.option key

theorem follows_after (n : Node) (steps : List Step) : Follows n steps (n.after steps) where
  kind := by rw [after_eq]
  extra := by rw [after_eq]
  children := by rw [after_eq]
  attr name := by
    rw [after_eq]
    exact get?_filled ..
  location := by
    rw [location_eq_bind, option_after, given_locationPair, if_pos rfl, List.getLast?_map,
      location_eq_bind]
    cases (steps.filterMap Step.line?).getLast? <;> rfl
  option key other := by
    rw [option_after, given_locationPair, if_neg other]
    rfl

theorem step_step (apart : s.Apart t) (n : Node) : (n.step s).step t = (n.step t).step s := by
  induction apart with
  | attr_attr ne =>
      simp only [step, withAttr, Option.getD_some]
      rw [insert_insert_of_ne ne]
  | attr_location | attr_child | location_child => rfl
  | symm _ ih => exact ih.symm

theorem after_exchanged (apart : s.Apart t) (n : Node) (before more : List Step) :
    n.after (before ++ s :: t :: more) = n.after (before ++ t :: s :: more) := by
  simp only [after, List.foldl_append, List.foldl_cons, step_step apart]

/-- An attribute and the line of a node are what its fields hold, and the line is a whole number of 64
bits. After any steps they are those of the last step that sets them, or else those of the node that
the steps start from; children come behind those that are there, all else is as it was, and steps that
are apart can change places. -/
theorem accessors_follow_steps (n : Node) (steps : List Step) :
    (∀ name, n.attrValue name = ((Record.node n).follow ["attr", name]).bind Field.text?) ∧
      n.location = ((Record.node n).follow ["options", locationKey]).bind Field.number? ∧
      (n.Made → ∀ line, n.location = some line ↔
        line < Number.naturalLimit ∧ (n.option locationKey).bind integer? = some (line : Int)) ∧
      Follows n steps (n.after steps) ∧
      ∀ before s t more, s.Apart t →
        n.after (before ++ s :: t :: more) = n.after (before ++ t :: s :: more) := by
  refine ⟨attrValue_eq_follow n, location_eq_follow n, ?_, follows_after n steps, ?_⟩
  · intro made line
    exact made.location_eq_some_iff
  · intro before s t more apart
    exact after_exchanged apart n before more

theorem accessors_follow_steps_paragraph :
    let n := (Node.ofKind "p").withLocation 7
    let steps := [.attr "class" "a", .location 3, .child (.ofKind "q"), .attr "class" "b"]
    n.Made ∧ n.location = some 7 ∧
      (n.after steps).attrValue "class" = some "b" ∧ (n.after steps).location = some 3 ∧
      Step.Apart (.attr "class" "a") (.location 3) ∧
      n.after [.location 5, .attr "class" "a", .location 3] =
        n.after [.location 5, .location 3, .attr "class" "a"] := by
  intro n steps
  have made : n.Made := .location (.ofKind "p") (by decide)
  obtain ⟨-, -, location_iff, follows, exchanged⟩ := accessors_follow_steps n steps
  refine ⟨made, (location_iff made 7).2 ⟨by decide, rfl⟩, ?_, ?_, .attr_location, ?_⟩
  · exact follows.attr "class"
  · exact follows.location
  · exact exchanged [.location 5] _ _ [] .attr_location

end Node
end LessonAudit.Tree
