set_option autoImplicit false

namespace LessonAudit.Sorting

variable {α : Type} [BEq α] [LawfulBEq α]

omit [LawfulBEq α] in
theorem loop_eraseReps (first : α) (items done : List α) :
    List.eraseRepsBy.loop (· == ·) first items done =
      done.reverse ++ List.eraseRepsBy.loop (· == ·) first items [] := by
  induction items generalizing first done with
  | nil => simp [List.eraseRepsBy.loop]
  | cons second more ih =>
      cases same : first == second with
      | true => simp only [List.eraseRepsBy.loop, same, ih first done]
      | false =>
          simp only [List.eraseRepsBy.loop, same, ih second (first :: done), ih second [first]]
          simp

theorem eraseReps_cons_self (first : α) (items : List α) :
    (first :: first :: items).eraseReps = (first :: items).eraseReps := by
  simp [List.eraseReps, List.eraseRepsBy, List.eraseRepsBy.loop]

theorem eraseReps_cons_of_ne {first second : α} (differ : first ≠ second) (items : List α) :
    (first :: second :: items).eraseReps = first :: (second :: items).eraseReps := by
  have unlike : (first == second) = false := by simpa using differ
  simp [List.eraseReps, List.eraseRepsBy, List.eraseRepsBy.loop, unlike,
    loop_eraseReps second items [first]]

theorem mem_eraseReps {item : α} {items : List α} : item ∈ items.eraseReps ↔ item ∈ items := by
  induction items with
  | nil => rfl
  | cons first more ih =>
      cases more with
      | nil => rfl
      | cons second more =>
          by_cases same : first = second
          · subst same
            rw [eraseReps_cons_self, ih]
            simp
          · rw [eraseReps_cons_of_ne same, List.mem_cons, ih, List.mem_cons (b := first)]

theorem eraseReps_sublist (items : List α) : items.eraseReps.Sublist items := by
  induction items with
  | nil => exact List.Sublist.slnil
  | cons first more ih =>
      cases more with
      | nil => exact List.Sublist.refl _
      | cons second more =>
          by_cases same : first = second
          · subst same
            rw [eraseReps_cons_self]
            exact ih.cons first
          · rw [eraseReps_cons_of_ne same]
            exact ih.cons_cons first

theorem eraseReps_of_nodup {items : List α} (nodup : items.Nodup) : items.eraseReps = items := by
  induction items with
  | nil => rfl
  | cons first more ih =>
      cases more with
      | nil => rfl
      | cons second more =>
          obtain ⟨fresh, nodup⟩ := List.nodup_cons.1 nodup
          have differ : first ≠ second := fun same => fresh (by simp [same])
          rw [eraseReps_cons_of_ne differ, ih nodup]

variable [LE α] [DecidableLE α] [Std.IsLinearOrder α]

omit [BEq α] [LawfulBEq α] in
theorem pairwise_sorted (items : List α) :
    (items.mergeSort fun a b => decide (a ≤ b)).Pairwise (· ≤ ·) := by
  have sorted : (items.mergeSort fun a b => decide (a ≤ b)).Pairwise
      fun a b => decide (a ≤ b) = true :=
    List.pairwise_mergeSort (fun a b c => by simpa using Std.le_trans)
      (fun a b => by simpa using Std.le_total) items
  simpa using sorted

omit [BEq α] [LawfulBEq α] in
theorem mergeSort_eq_of_perm {items others : List α} (perm : items.Perm others) :
    (items.mergeSort fun a b => decide (a ≤ b)) = others.mergeSort fun a b => decide (a ≤ b) := by
  have same : (items.mergeSort fun a b => decide (a ≤ b)).Perm
      (others.mergeSort fun a b => decide (a ≤ b)) :=
    (List.mergeSort_perm ..).trans (perm.trans (List.mergeSort_perm ..).symm)
  exact same.eq_of_pairwise (fun a b _ _ => Std.le_antisymm) (pairwise_sorted items)
    (pairwise_sorted others)

omit [DecidableLE α] in
theorem pairwise_eraseReps {items : List α} (sorted : items.Pairwise (· ≤ ·)) :
    items.eraseReps.Pairwise fun a b => a ≤ b ∧ a ≠ b := by
  induction items with
  | nil => exact List.Pairwise.nil
  | cons first more ih =>
      cases more with
      | nil => exact List.pairwise_singleton ..
      | cons second more =>
          obtain ⟨least, sorted⟩ := List.pairwise_cons.1 sorted
          by_cases same : first = second
          · subst same
            rw [eraseReps_cons_self]
            exact ih sorted
          · rw [eraseReps_cons_of_ne same]
            refine List.pairwise_cons.2 ⟨fun item member => ⟨least item (mem_eraseReps.1 member), ?_⟩,
              ih sorted⟩
            rintro rfl
            have above : second ≤ first := by
              rcases List.mem_cons.1 (mem_eraseReps.1 member) with here | later
              · exact absurd here same
              · exact (List.pairwise_cons.1 sorted).1 first later
            exact same (Std.le_antisymm (least second (by simp)) above)

theorem length_sorted_eq_iff {items : List α} :
    let sorted := items.mergeSort fun a b => decide (a ≤ b)
    sorted.length = sorted.eraseReps.length ↔ items.Nodup := by
  intro sorted
  have perm : sorted.Perm items := List.mergeSort_perm ..
  constructor
  · intro equal
    have distinct := pairwise_eraseReps (pairwise_sorted items)
    rw [(eraseReps_sublist sorted).eq_of_length equal.symm] at distinct
    exact perm.nodup_iff.1 (distinct.imp fun pair => pair.2)
  · intro nodup
    rw [eraseReps_of_nodup (perm.nodup_iff.2 nodup)]

end LessonAudit.Sorting
