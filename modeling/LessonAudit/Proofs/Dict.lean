import LessonAudit.Dict
import Mathlib.Data.List.Basic
import Mathlib.Data.List.Perm.Basic
set_option autoImplicit false

namespace LessonAudit.Dict

variable {α : Type} {d d' : Dict α} {pairs pairs' : List (String × α)} {key name : String}
  {value : α}

def given (pairs : List (String × α)) (key : String) : List α :=
  (pairs.filter fun pair => pair.1 = key).map (·.2)

structure Holds (d : Dict α) (pairs : List (String × α)) : Prop where
  increasing : d.Increasing
  last : ∀ key, d.get? key = (given pairs key).getLast?

@[simp] theorem given_nil : given ([] : List (String × α)) key = [] := rfl

theorem given_cons : given ((name, value) :: pairs) key =
    if name = key then value :: given pairs key else given pairs key := by
  by_cases same : name = key <;> simp [given, same]

theorem given_same : given ((key, value) :: pairs) key = value :: given pairs key := by
  rw [given_cons, if_pos rfl]

theorem given_ne (other : name ≠ key) : given ((name, value) :: pairs) key = given pairs key := by
  rw [given_cons, if_neg other]

theorem given_append : given (pairs ++ pairs') key = given pairs key ++ given pairs' key := by
  simp [given]

theorem mem_given : value ∈ given pairs key ↔ (key, value) ∈ pairs := by
  simp [given]

theorem mem_of_given (single : given pairs key = [value]) : (key, value) ∈ pairs :=
  mem_given.1 (single ▸ List.mem_cons_self)

theorem given_eq_nil_iff : given pairs key = [] ↔ ∀ pair ∈ pairs, pair.1 ≠ key := by
  simp [given]

theorem length_given_le (distinct : (pairs.map (·.1)).Nodup) : (given pairs key).length ≤ 1 := by
  induction pairs with
  | nil => simp
  | cons pair pairs ih =>
      obtain ⟨name, value⟩ := pair
      obtain ⟨fresh, distinct⟩ := List.nodup_cons.1 distinct
      rw [given_cons]
      split
      · next same =>
          have none : given pairs key = [] := given_eq_nil_iff.2 fun pair known same' =>
            fresh (List.mem_map.2 ⟨pair, known, same'.trans same.symm⟩)
          simp [none]
      · exact ih distinct

theorem given_eq_of_perm (distinct : (pairs.map (·.1)).Nodup) (perm : pairs.Perm pairs') :
    given pairs key = given pairs' key := by
  have same : (given pairs key).Perm (given pairs' key) := (perm.filter _).map _
  have one : (given pairs key).length ≤ 1 := length_given_le distinct
  match values : given pairs key, one with
  | [], _ =>
      rw [values] at same
      exact (List.nil_perm.1 same).symm
  | [value], _ =>
      rw [values] at same
      exact List.singleton_perm.1 same

theorem get?_eq_none (above : ∀ pair ∈ d, key < pair.1) : d.get? key = none := by
  induction d with
  | nil => rfl
  | cons pair d ih =>
      obtain ⟨k, v⟩ := pair
      have below := above (k, v) List.mem_cons_self
      rw [get?_cons, if_neg (String.ne_of_lt below)]
      exact ih fun pair known => above pair (List.mem_cons_of_mem _ known)

theorem get?_head (above : ∀ pair ∈ d, name < pair.1) (least : key < name ∨ key = name) :
    get? ((name, value) :: d) key = if key = name then some value else none := by
  rw [get?_cons]
  split
  · rfl
  · next other =>
      have below := least.resolve_right other
      exact get?_eq_none fun pair known => String.lt_trans below (above pair known)

theorem mem_of_get?_eq_some (found : d.get? key = some value) : (key, value) ∈ d := by
  induction d with
  | nil => cases found
  | cons pair d ih =>
      obtain ⟨k, v⟩ := pair
      rw [get?_cons] at found
      split at found
      · next same =>
          cases found
          exact List.mem_cons.2 (.inl (by rw [same]))
      · exact List.mem_cons_of_mem _ (ih found)

theorem Increasing.get?_eq_some_iff (increasing : d.Increasing) :
    d.get? key = some value ↔ (key, value) ∈ d := by
  refine ⟨mem_of_get?_eq_some, fun known => ?_⟩
  induction d with
  | nil => cases known
  | cons pair d ih =>
      obtain ⟨k, v⟩ := pair
      obtain ⟨above, rising⟩ := List.pairwise_cons.1 increasing
      rw [get?_cons]
      rcases List.mem_cons.1 known with first | later
      · cases first
        exact if_pos rfl
      · rw [if_neg (String.ne_of_lt (above _ later)).symm]
        exact ih rising later

theorem eq_of_get?_eq (increasing : d.Increasing) (increasing' : d'.Increasing)
    (same : ∀ key, d.get? key = d'.get? key) : d = d' := by
  induction d generalizing d' with
  | nil =>
      cases d' with
      | nil => rfl
      | cons pair d' =>
          obtain ⟨k, v⟩ := pair
          have found := same k
          simp [get?_cons] at found
  | cons pair d ih =>
      obtain ⟨k, v⟩ := pair
      cases d' with
      | nil =>
          have found := same k
          simp [get?_cons] at found
      | cons pair' d' =>
          obtain ⟨k', v'⟩ := pair'
          obtain ⟨above, rising⟩ := List.pairwise_cons.1 increasing
          obtain ⟨above', rising'⟩ := List.pairwise_cons.1 increasing'
          -- neither first key can be the smaller one, as the other side would not hold it
          have key_eq : k = k' := by
            rcases Std.lt_trichotomy k k' with below | key_eq | below
            · have found := same k
              rw [get?_head above (.inr rfl), get?_head above' (.inl below)] at found
              simp [String.ne_of_lt below] at found
            · exact key_eq
            · have found := same k'
              rw [get?_head above (.inl below), get?_head above' (.inr rfl)] at found
              simp [String.ne_of_lt below] at found
          subst key_eq
          have value_eq : v = v' := by simpa [get?_cons] using same k
          have rest_eq : d = d' := ih rising rising' fun key => by
            by_cases is_first : key = k
            · subst is_first
              rw [get?_eq_none above, get?_eq_none above']
            · simpa [get?_cons, is_first] using same key
          rw [value_eq, rest_eq]

theorem Holds.unique (holds : Holds d pairs) (holds' : Holds d' pairs) : d = d' :=
  eq_of_get?_eq holds.increasing holds'.increasing fun key =>
    (holds.last key).trans (holds'.last key).symm

def put (d : Dict α) (pairs : List (String × α)) : Dict α :=
  pairs.foldl (fun d pair => d.insert pair.1 pair.2) d

theorem insert_before {k : String} {v : α} (below : key < k) :
    insert key value ((k, v) :: d) = (key, value) :: (k, v) :: d :=
  if_pos below

theorem insert_same {v : α} : insert key value ((key, v) :: d) = (key, value) :: d := by
  rw [insert, if_neg (String.lt_irrefl key), if_pos rfl]

theorem insert_behind {k : String} {v : α} (above : k < key) :
    insert key value ((k, v) :: d) = (k, v) :: insert key value d := by
  rw [insert, if_neg (String.lt_asymm above), if_neg (String.ne_of_lt above).symm]

theorem insert_insert_of_lt {other : α} (lt : key < name) :
    (d.insert key value).insert name other = (d.insert name other).insert key value := by
  induction d with
  | nil =>
      have first : insert name other [(key, value)] = [(key, value), (name, other)] :=
        insert_behind lt
      have second : insert key value [(name, other)] = [(key, value), (name, other)] :=
        insert_before lt
      exact first.trans second.symm
  | cons pair d ih =>
      obtain ⟨k, v⟩ := pair
      rcases Std.lt_trichotomy key k with below | rfl | above
      · -- the smaller key comes first, whatever the larger one does behind it
        rw [insert_before below, insert_behind lt]
        rcases Std.lt_trichotomy name k with before | rfl | behind
        · rw [insert_before before, insert_before lt]
        · rw [insert_same, insert_before lt]
        · rw [insert_behind behind, insert_before below]
      · rw [insert_same, insert_behind lt, insert_behind lt, insert_same]
      · rw [insert_behind above, insert_behind (String.lt_trans above lt), ih,
          insert_behind (String.lt_trans above lt), insert_behind above]

theorem insert_insert_of_ne {other : α} (ne : key ≠ name) :
    (d.insert key value).insert name other = (d.insert name other).insert key value := by
  rcases Std.lt_trichotomy key name with lt | same | lt
  · exact insert_insert_of_lt lt
  · exact absurd same ne
  · exact (insert_insert_of_lt lt).symm

theorem mem_of_mem_insert {pair : String × α} (known : pair ∈ d.insert key value) :
    pair = (key, value) ∨ pair ∈ d := by
  induction d with
  | nil => exact .inl (List.mem_singleton.1 known)
  | cons first d ih =>
      obtain ⟨k, v⟩ := first
      rw [insert] at known
      split at known
      · exact List.mem_cons.1 known
      · split at known
        · exact (List.mem_cons.1 known).imp_right (List.mem_cons_of_mem _)
        · rcases List.mem_cons.1 known with rfl | known
          · exact .inr List.mem_cons_self
          · exact (ih known).imp_right (List.mem_cons_of_mem _)

theorem mem_of_mem_put {pair : String × α} (known : pair ∈ put d pairs) :
    pair ∈ pairs ∨ pair ∈ d := by
  induction pairs generalizing d with
  | nil => exact .inr known
  | cons first pairs ih =>
      rcases ih known with later | known
      · exact .inl (List.mem_cons_of_mem _ later)
      · exact (mem_of_mem_insert known).imp_left fun same => List.mem_cons.2 (.inl same)

theorem put_increasing (increasing : d.Increasing) : (put d pairs).Increasing := by
  induction pairs generalizing d with
  | nil => exact increasing
  | cons pair pairs ih => exact ih (increasing.insert pair.1 pair.2)

theorem get?_put : (put d pairs).get? key = ((given pairs key).getLast?).or (d.get? key) := by
  induction pairs generalizing d with
  | nil => simp [put]
  | cons pair pairs ih =>
      obtain ⟨name, value⟩ := pair
      change (put (d.insert name value) pairs).get? key = _
      rw [ih, get?_insert, given_cons]
      by_cases same : name = key
      · simp [same, List.getLast?_cons]
      · simp [same, Ne.symm same]

theorem holds_put : Holds (put [] pairs) pairs where
  increasing := put_increasing .nil
  last key := by simp [get?_put]

theorem holds_iff : Holds d pairs ↔ d = put [] pairs :=
  ⟨fun holds => holds.unique holds_put, fun same => same ▸ holds_put⟩

theorem Increasing.holds (increasing : d.Increasing) : Holds d d where
  increasing := increasing
  last key := by
    induction d with
    | nil => rfl
    | cons pair d ih =>
        obtain ⟨name, value⟩ := pair
        obtain ⟨above, rising⟩ := List.pairwise_cons.1 increasing
        by_cases same : name = key
        · subst same
          have fresh : given d name = [] := given_eq_nil_iff.2 fun pair known same =>
            String.ne_of_lt (above pair known) same.symm
          simp [get?_cons, given_same, fresh]
        · rw [get?_cons, if_neg (Ne.symm same), given_ne same, ih rising]

theorem put_eq_of_perm (distinct : (pairs.map (·.1)).Nodup) (perm : pairs.Perm pairs') :
    put [] pairs = put [] pairs' := by
  have holds : Holds (put [] pairs) pairs' :=
    ⟨holds_put.increasing, fun key =>
      (holds_put.last key).trans (by rw [given_eq_of_perm distinct perm])⟩
  exact holds_iff.1 holds

end LessonAudit.Dict
