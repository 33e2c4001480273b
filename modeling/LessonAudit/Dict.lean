set_option autoImplicit false

namespace LessonAudit

abbrev Dict (α : Type) := List (String × α)

namespace Dict

variable {α : Type}

def get? (d : Dict α) (key : String) : Option α :=
  List.lookup key d

def insert (key : String) (value : α) : Dict α → Dict α
  | [] => [(key, value)]
  | (k, v) :: rest =>
      if key < k then (key, value) :: (k, v) :: rest
      else if key = k then (key, value) :: rest
      else (k, v) :: insert key value rest

def ofList (pairs : List (String × α)) : Dict α :=
  pairs.foldl (fun d pair => d.insert pair.1 pair.2) []

def keys (d : Dict α) : List String :=
  d.map (·.1)

def Increasing (d : Dict α) : Prop :=
  d.Pairwise (fun a b => a.1 < b.1)

@[simp] theorem get?_nil (key : String) : get? ([] : Dict α) key = none := rfl

theorem get?_cons (key k : String) (v : α) (rest : Dict α) :
    get? ((k, v) :: rest) key = if key = k then some v else get? rest key := by
  change (match key == k with
    | true => some v
    | false => get? rest key) = _
  by_cases h : key = k
  · simp [h]
  · simp [h, beq_false_of_ne h]

theorem get?_insert (d : Dict α) (key other : String) (value : α) :
    (d.insert key value).get? other = if other = key then some value else d.get? other := by
  induction d with
  | nil => simp [insert, get?_cons]
  | cons pair rest ih =>
      obtain ⟨k, v⟩ := pair
      simp only [insert]
      split
      · simp [get?_cons]
      · split
        · next h => subst h; simp only [get?_cons]; split <;> rfl
        · next h =>
            simp only [get?_cons, ih]
            by_cases ho : other = k
            · subst ho; simp [Ne.symm h]
            · simp [ho]

theorem mem_keys_insert (d : Dict α) (key other : String) (value : α) :
    other ∈ (d.insert key value).keys ↔ other = key ∨ other ∈ d.keys := by
  induction d with
  | nil => simp [insert, keys]
  | cons pair rest ih =>
      obtain ⟨k, v⟩ := pair
      simp only [keys] at ih
      simp only [insert, keys]
      split
      · simp
      · split
        · next h => subst h; simp
        · simp only [List.map_cons, List.mem_cons, ih]
          constructor
          · rintro (h | h | h) <;> simp [h]
          · rintro (h | h | h) <;> simp [h]

theorem Increasing.insert {d : Dict α} (h : d.Increasing) (key : String) (value : α) :
    (d.insert key value).Increasing := by
  induction d with
  | nil => simp [Dict.insert, Increasing]
  | cons pair rest ih =>
      obtain ⟨k, v⟩ := pair
      obtain ⟨below, tail⟩ := List.pairwise_cons.1 h
      simp only [Dict.insert]
      split
      · next lt =>
          refine List.pairwise_cons.2 ⟨fun x hx => ?_, h⟩
          rcases List.mem_cons.1 hx with rfl | hx
          · exact lt
          · exact String.lt_trans lt (below x hx)
      · split
        · next eq => subst eq; exact List.pairwise_cons.2 ⟨below, tail⟩
        · next notLt ne =>
            refine List.pairwise_cons.2 ⟨fun x hx => ?_, ih tail⟩
            have hkey : x.1 ∈ (Dict.insert key value rest).keys := List.mem_map_of_mem hx
            rcases (mem_keys_insert rest key x.1 value).1 hkey with hx' | hx'
            · rw [hx']
              exact Std.lt_of_le_of_ne (String.not_lt.1 notLt) (Ne.symm ne)
            · obtain ⟨y, hy, hyx⟩ := List.mem_map.1 hx'
              rw [← hyx]
              exact below y hy

end Dict
end LessonAudit
