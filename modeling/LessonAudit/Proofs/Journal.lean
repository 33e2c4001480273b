import LessonAudit.Journal
set_option autoImplicit false

namespace LessonAudit.Journal

open Json (Value)

def faultUnless (holds : Bool) (location : Option Location) (message : String) : List Finding :=
  if holds then [] else [⟨location, message⟩]

section

variable {holds : Bool} {location : Option Location} {message : String}

theorem faultUnless_eq_nil_iff : faultUnless holds location message = [] ↔ holds = true := by
  cases holds <;> simp [faultUnless]

theorem eq_of_mem_faultUnless {f : Finding} (found : f ∈ faultUnless holds location message) :
    f = ⟨location, message⟩ := by
  cases holds with
  | true => cases found
  | false => exact List.mem_singleton.1 found

end

theorem flatMap_faultUnless {α : Type} (holds : α → Bool) (place : α → Option Location)
    (message : α → String) (items : List α) :
    (items.flatMap fun item => faultUnless (holds item) (place item) (message item)) =
      (items.filter fun item => !holds item).map fun item => ⟨place item, message item⟩ := by
  induction items with
  | nil => rfl
  | cons item more ih =>
      rw [List.flatMap_cons, ih]
      by_cases fine : holds item = true <;> simp [faultUnless, fine]

theorem findings_foldl {α : Type} {step : Journal → α → Journal} {found : α → List Finding}
    (adds : ∀ j item, (step j item).findings = j.findings ++ found item) (items : List α)
    (j : Journal) : (items.foldl step j).findings = j.findings ++ items.flatMap found := by
  induction items generalizing j with
  | nil => simp
  | cons item more ih => simp [ih, adds]

def isText (actual : Value) (expected : String) : Bool :=
  match actual with
  | .text s => s == expected
  | _ => false

theorem isText_iff {actual : Value} {expected : String} :
    isText actual expected = true ↔ actual = .text expected := by
  cases actual <;> simp [isText]

def fieldFaults (location : Option Location) (name : String) (members : Dict Value)
    (field expected : String) : List Finding :=
  match members.get? field with
  | none => [⟨location, name ++ " does not contain " ++ field⟩]
  | some actual =>
      faultUnless (isText actual expected) location
        (name ++ " " ++ field ++ " is " ++ shown actual ++ " not " ++ expected)

section

variable {location : Option Location} {name field expected : String} {members : Dict Value}

theorem findings_checkField (j : Journal) :
    (j.checkField location name members field expected).findings =
      j.findings ++ fieldFaults location name members field expected := by
  unfold checkField fieldFaults
  cases members.get? field with
  | none => rfl
  | some actual => exact findings_check ..

theorem fieldFaults_eq_nil_iff :
    fieldFaults location name members field expected = [] ↔
      members.get? field = some (.text expected) := by
  unfold fieldFaults
  cases members.get? field with
  | none => simp
  | some actual => simp [faultUnless_eq_nil_iff, isText_iff]

theorem location_of_mem_fieldFaults {f : Finding}
    (found : f ∈ fieldFaults location name members field expected) : f.location = location := by
  unfold fieldFaults at found
  split at found
  · rw [List.mem_singleton.1 found]
  · rw [eq_of_mem_faultUnless found]

end

end LessonAudit.Journal
