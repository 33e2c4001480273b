import LessonAudit.Proofs.Json.Printing
import LessonAudit.Proofs.Tree.Shape
import Mathlib.Logic.Relation
set_option autoImplicit false

namespace LessonAudit.Tree

open Json (Written Schema IsText read_iff values valueMembers_eq value_record)
open Dict (given given_cons given_append given_eq_of_perm put put_eq_of_perm)

inductive Reordered : Written → Written → Prop
  | here {members members' : List (String × Written)} (distinct : (members.map (·.1)).Nodup)
      (same : members.Perm members') : Reordered (.record members) (.record members')
  | item {before after : List Written} {a b : Written} (inside : Reordered a b) :
      Reordered (.list (before ++ a :: after)) (.list (before ++ b :: after))
  | member {before after : List (String × Written)} {name : String} {a b : Written}
      (inside : Reordered a b) :
      Reordered (.record (before ++ (name, a) :: after)) (.record (before ++ (name, b) :: after))

structure Alike (a b : Written) : Prop where
  value : a.value = b.value
  depth : a.depth = b.depth
  text : text? a = text? b
  attributes : attributes? a = attributes? b
  options : options? a = options? b
  children : childrenOf? a = childrenOf? b
  node : Node.ofWritten? a = Node.ofWritten? b

variable {α : Type} {w w' a b : Written} {members members' : List (String × Written)}

instance : Std.Refl Alike where
  refl _ := by constructor <;> rfl

theorem Alike.item {before after : List Written} (alike : Alike a b) :
    Alike (.list (before ++ a :: after)) (.list (before ++ b :: after)) where
  value := by
    suffices same : Written.valueItems (before ++ a :: after) =
        Written.valueItems (before ++ b :: after) by simp only [Written.value, same]
    induction before with
    | nil => simp [Written.valueItems, alike.value]
    | cons item before ih => simp [Written.valueItems, ih]
  depth := by
    have same : Written.depthItems (before ++ a :: after) =
        Written.depthItems (before ++ b :: after) :=
      Nat.le_antisymm (Written.depthItems_replaced (Nat.le_of_eq alike.depth))
        (Written.depthItems_replaced (Nat.le_of_eq alike.depth.symm))
    simp only [Written.depth, same]
  text := rfl
  attributes := rfl
  options := rfl
  children := by
    simp only [childrenOf?]
    induction before with
    | nil => simp [nodes?, alike.node]
    | cons item before ih => simp [nodes?, ih]
  node := rfl

theorem came_congr {read : Written → Option α} {before after : Option α}
    {values values' : List Written}
    (same : List.Forall₂ (fun v v' => read v = read v') values values') :
    Came read before values after ↔ Came read before values' after := by
  cases same with
  | nil => rfl
  | cons first later =>
      cases later with
      | nil => simp [came_cons, first]
      | cons => simp [Came]

theorem ofWritten?_congr
    (named : ∀ name ∈ namedMembers, List.Forall₂ Alike (given members name) (given members' name))
    (same_extra : put [] (values (others members)) = put [] (values (others members'))) :
    Node.ofWritten? (.record members) = Node.ofWritten? (.record members') := by
  have same : foundIn members .nothing = foundIn members' .nothing := by
    refine Option.ext fun g => ?_
    rw [foundIn_iff, foundIn_iff]
    have kind := (named "type" (by simp [namedMembers])).imp fun _ _ alike => alike.text
    have attr := (named "attr" (by simp [namedMembers])).imp fun _ _ alike => alike.attributes
    have options := (named "options" (by simp [namedMembers])).imp fun _ _ alike => alike.options
    have children := (named "children" (by simp [namedMembers])).imp fun _ _ alike => alike.children
    rw [came_congr kind, came_congr attr, came_congr options, came_congr children]
    simp only [Found.nothing, same_extra]
  rw [Node.ofWritten?, Node.ofWritten?, same]

theorem values_replaced {before after : List (String × Written)} {name : String}
    (alike : Alike a b) :
    values (before ++ (name, a) :: after) = values (before ++ (name, b) :: after) := by
  simp [values, alike.value]

theorem others_replaced {before after : List (String × Written)} {name : String}
    (alike : Alike a b) : values (others (before ++ (name, a) :: after)) =
      values (others (before ++ (name, b) :: after)) := by
  by_cases named : name ∈ namedMembers <;> simp [others, named, values, alike.value]

theorem given_replaced {before after : List (String × Written)} {name : String}
    (alike : Alike a b) (key : String) :
    List.Forall₂ Alike (given (before ++ (name, a) :: after) key)
      (given (before ++ (name, b) :: after) key) := by
  rw [given_append, given_append, given_cons, given_cons]
  refine List.rel_append (List.forall₂_refl _) ?_
  split
  · exact .cons alike (List.forall₂_refl _)
  · exact List.forall₂_refl _

theorem texts?_replaced {before after : List (String × Written)} {name : String}
    (alike : Alike a b) (found : Dict String) :
    texts? (before ++ (name, a) :: after) found = texts? (before ++ (name, b) :: after) found := by
  induction before generalizing found with
  | nil => simp only [List.nil_append, texts?_cons, alike.text]
  | cons member before ih =>
      obtain ⟨key, value⟩ := member
      simp only [List.cons_append, texts?_cons, ih]

theorem Alike.member {before after : List (String × Written)} (name : String) (alike : Alike a b) :
    Alike (.record (before ++ (name, a) :: after)) (.record (before ++ (name, b) :: after)) where
  value := by rw [value_record, value_record, values_replaced alike]
  depth := by
    have same : Written.depthMembers (before ++ (name, a) :: after) =
        Written.depthMembers (before ++ (name, b) :: after) :=
      Nat.le_antisymm (Written.depthMembers_replaced (Nat.le_of_eq alike.depth))
        (Written.depthMembers_replaced (Nat.le_of_eq alike.depth.symm))
    simp only [Written.depth, same]
  text := rfl
  attributes := by rw [attributes?, attributes?, texts?_replaced alike]
  options := by
    rw [options?, options?, valueMembers_eq, valueMembers_eq, values_replaced alike]
  children := rfl
  node := ofWritten?_congr (fun key _ => given_replaced alike key) (by rw [others_replaced alike])

theorem names_values : (values members).map (·.1) = members.map (·.1) := by
  simp [values, Function.comp_def]

theorem put_values_perm (distinct : (members.map (·.1)).Nodup) (same : members.Perm members') :
    put [] (values members) = put [] (values members') :=
  put_eq_of_perm (by rwa [names_values]) (same.map _)

theorem texts?_perm (distinct : (members.map (·.1)).Nodup) (same : members.Perm members')
    {d : Dict String} (reads : texts? members [] = some d) : texts? members' [] = some d := by
  obtain ⟨pairs, rfl, rfl⟩ := texts?_iff.1 reads
  -- the other order is one of texts too
  have all_texts : ∀ member ∈ members', member.2.kind = .text := fun member known =>
    exists_texts_iff.1 ⟨pairs, rfl⟩ member (same.mem_iff.2 known)
  obtain ⟨pairs', rfl⟩ := exists_texts_iff.2 all_texts
  have injective : Function.Injective fun pair : String × String => (pair.1, Written.text pair.2) := by
    rintro ⟨key, s⟩ ⟨key', s'⟩ same
    simpa using same
  have same_pairs : pairs.Perm pairs' := (List.map_perm_map_iff injective).1 same
  have distinct_keys : (pairs.map (·.1)).Nodup := by
    simpa [Node.textMembers, Function.comp_def] using distinct
  exact texts?_iff.2 ⟨pairs', rfl, put_eq_of_perm distinct_keys same_pairs⟩

theorem alike_of_perm (distinct : (members.map (·.1)).Nodup) (same : members.Perm members') :
    Alike (.record members) (.record members') where
  value := by rw [value_record, value_record, put_values_perm distinct same]
  depth := by
    have le_iff (levels : Nat) :
        Written.depthMembers members ≤ levels ↔ Written.depthMembers members' ≤ levels := by
      simp only [Written.depthMembers_le_iff, same.mem_iff]
    have depth_eq : Written.depthMembers members = Written.depthMembers members' :=
      Nat.le_antisymm ((le_iff _).2 (Nat.le_refl _)) ((le_iff _).1 (Nat.le_refl _))
    simp only [Written.depth, depth_eq]
  text := rfl
  attributes := by
    have distinct' : (members'.map (·.1)).Nodup := (same.map _).nodup_iff.1 distinct
    rw [attributes?, attributes?, Option.ext fun d =>
      ⟨texts?_perm distinct same, texts?_perm distinct' same.symm⟩]
  options := by
    rw [options?, options?, valueMembers_eq, valueMembers_eq, put_values_perm distinct same]
  children := rfl
  node := by
    refine ofWritten?_congr (fun name _ => ?_) ?_
    · rw [given_eq_of_perm distinct same]
      exact List.forall₂_refl _
    · exact put_values_perm (distinct.sublist (List.filter_sublist.map _)) (same.filter _)

theorem Reordered.alike (reordered : Reordered a b) : Alike a b := by
  induction reordered with
  | here distinct same => exact alike_of_perm distinct same
  | item _ ih => exact ih.item
  | member _ ih => exact ih.member _

def oneAndHalf : Json.Number := .double ⟨false, 6755399441055744, -52⟩

theorem spells_oneAndHalf : Json.Spells (.number oneAndHalf) ['1', '.', '5'] := by
  have literal : Json.Number.ofLiteral false ['1'] ['5'] none = some oneAndHalf := by decide +kernel
  exact .number (.unsigned (.intro ⟨by simp, by simp⟩ (by decide) (.present ⟨by simp, by simp⟩) .absent
    (Json.Number.ofLiteral_eq_some_iff.1 literal)))

def halved : Written :=
  .record [("type", .text "p"), ("x", .number oneAndHalf)]

end LessonAudit.Tree
