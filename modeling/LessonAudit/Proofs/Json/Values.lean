import LessonAudit.Proofs.Dict
import LessonAudit.Proofs.Json.Printing
set_option autoImplicit false

namespace LessonAudit.Json

open Dict (put holds_iff mem_of_mem_put put_increasing)

def values (members : List (String × Written)) : List (String × Value) :=
  members.map fun member => (member.1, member.2.value)

inductive Value.Lawful : Value → Prop
  | null : Lawful .null
  | flag {b : Bool} : Lawful (.flag b)
  | number {x : Number} (in_range : x.InRange) : Lawful (.number x)
  | text {s : String} : Lawful (.text s)
  | list {items : List Value} (inside : ∀ item ∈ items, Lawful item) : Lawful (.list items)
  | record {members : Dict Value} (increasing : members.Increasing)
      (inside : ∀ member ∈ members, Lawful member.2) : Lawful (.record members)

variable {v : Value} {w : Written} {x : Number} {members : List (String × Written)}

theorem valueMembers_eq (found : Dict Value) :
    Written.valueMembers members found = put found (values members) := by
  induction members generalizing found with
  | nil => rfl
  | cons member members ih => exact ih _

theorem value_record : (Written.record members).value = .record (put [] (values members)) := by
  rw [Written.value, valueMembers_eq]

theorem source_of_member {member : String × Value} (known : member ∈ put [] (values members)) :
    ∃ source ∈ members, (source.1, source.2.value) = member :=
  List.mem_map.1 ((mem_of_mem_put known).resolve_right List.not_mem_nil)

theorem valueItems_eq (items : List Written) :
    Written.valueItems items = items.map Written.value := by
  induction items with
  | nil => rfl
  | cons item items ih => rw [Written.valueItems, ih, List.map_cons]

theorem writtenItems_eq (items : List Value) :
    Value.writtenItems items = items.map Value.written := by
  induction items with
  | nil => rfl
  | cons item items ih => rw [Value.writtenItems, ih, List.map_cons]

theorem writtenMembers_eq (d : List (String × Value)) :
    Value.writtenMembers d = d.map fun member => (member.1, member.2.written) := by
  induction d with
  | nil => rfl
  | cons member d ih => rw [Value.writtenMembers, ih, List.map_cons]

theorem mem_writtenMembers {d : List (String × Value)} {member : String × Written} :
    member ∈ Value.writtenMembers d ↔ ∃ pair ∈ d, (pair.1, pair.2.written) = member := by
  rw [writtenMembers_eq, List.mem_map]

theorem values_writtenMembers {d : Dict Value}
    (inside : ∀ member ∈ d, member.2.written.value = member.2) :
    values (Value.writtenMembers d) = d := by
  rw [writtenMembers_eq, values, List.map_map]
  refine (List.map_congr_left fun member known => ?_).trans (List.map_id d)
  simp [inside member known]

theorem Value.Lawful.value_written (lawful : v.Lawful) : v.written.value = v := by
  induction lawful with
  | list _ ih =>
      rw [Value.written, Written.value, writtenItems_eq, valueItems_eq, List.map_map]
      exact congrArg _ ((List.map_congr_left ih).trans (List.map_id _))
  | @record d increasing _ ih =>
      rw [Value.written, value_record, values_writtenMembers ih,
        ← holds_iff.1 increasing.holds]
  | _ => simp only [Value.written, Written.value]

theorem lawful_value (numbers : ∀ x, w.Occurs x → x.InRange) : w.value.Lawful := by
  induction w using Written.induction with
  | simple w simple =>
      cases w with
      | null => exact .null
      | flag => exact .flag
      | number x => exact .number (numbers x .here)
      | text => exact .text
      | list => exact absurd rfl simple.1
      | record => exact absurd rfl simple.2
  | list items ih =>
      rw [Written.value, valueItems_eq]
      refine .list fun item known => ?_
      obtain ⟨source, source_known, rfl⟩ := List.mem_map.1 known
      exact ih source source_known fun x occurs => numbers x (.item source_known occurs)
  | record members ih =>
      rw [value_record]
      refine .record (put_increasing .nil) fun member known => ?_
      obtain ⟨source, source_known, rfl⟩ := source_of_member known
      exact ih source source_known fun x occurs => numbers x (.member source_known occurs)

theorem Value.Lawful.inRange (lawful : v.Lawful) (occurs : v.written.Occurs x) : x.InRange := by
  induction lawful with
  | null => cases occurs
  | flag => cases occurs
  | text => cases occurs
  | number in_range =>
      cases occurs
      exact in_range
  | list _ ih =>
      rw [Value.written, writtenItems_eq] at occurs
      cases occurs with
      | item known inside =>
          obtain ⟨item, item_known, rfl⟩ := List.mem_map.1 known
          exact ih item item_known inside
  | record _ _ ih =>
      rw [Value.written] at occurs
      cases occurs with
      | member known inside =>
          obtain ⟨member, member_known, rfl⟩ := mem_writtenMembers.1 known
          exact ih member member_known inside

theorem depth_written_value (w : Written) : w.value.written.depth ≤ w.depth := by
  induction w using Written.induction with
  | simple w simple =>
      cases w with
      | list => exact absurd rfl simple.1
      | record => exact absurd rfl simple.2
      | _ => simp [Written.value, Value.written]
  | list items ih =>
      rw [Written.value, valueItems_eq, Value.written, writtenItems_eq, Written.depth.eq_def
        (Written.list items)]
      refine Written.depth_list_le.2 fun item known => ?_
      simp only [List.map_map, List.mem_map] at known
      obtain ⟨source, source_known, rfl⟩ := known
      exact Nat.le_trans (ih source source_known) (Written.depth_le_depthItems source_known)
  | record members ih =>
      rw [value_record, Value.written, Written.depth.eq_def (Written.record members)]
      refine Written.depth_record_le.2 fun member known => ?_
      obtain ⟨inner, inner_known, rfl⟩ := mem_writtenMembers.1 known
      obtain ⟨source, source_known, rfl⟩ := source_of_member inner_known
      exact Nat.le_trans (ih source source_known) (Written.depth_le_depthMembers source_known)

end LessonAudit.Json
