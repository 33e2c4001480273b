set_option autoImplicit false

namespace LessonAudit.Text

variable {α : Type}

def joined (mark : α) : List (List α) → List α
  | [] => []
  | [piece] => piece
  | piece :: more => piece ++ mark :: joined mark more

theorem joined_nil_cons (mark : α) {more : List (List α)} (h : more ≠ []) :
    joined mark ([] :: more) = mark :: joined mark more := by
  cases more with
  | nil => exact absurd rfl h
  | cons piece rest => simp [joined]

theorem joined_cons_cons (mark c : α) (piece : List α) (more : List (List α)) :
    joined mark ((c :: piece) :: more) = c :: joined mark (piece :: more) := by
  cases more <;> simp [joined]

variable [DecidableEq α]

def pieces (mark : α) : List α → List (List α)
  | [] => [[]]
  | c :: cs =>
      if c = mark then [] :: pieces mark cs
      else
        match pieces mark cs with
        | [] => [[c]]
        | first :: more => (c :: first) :: more

theorem pieces_ne_nil (mark : α) (cs : List α) : pieces mark cs ≠ [] := by
  cases cs with
  | nil => simp [pieces]
  | cons c cs =>
      simp only [pieces]
      split
      · simp
      · split <;> simp

theorem joined_pieces (mark : α) (cs : List α) : joined mark (pieces mark cs) = cs := by
  induction cs with
  | nil => rfl
  | cons c cs ih =>
      simp only [pieces]
      split
      · next h => rw [joined_nil_cons mark (pieces_ne_nil mark cs), ih, h]
      · split
        · next h => exact absurd h (pieces_ne_nil mark cs)
        · next first more h => rw [joined_cons_cons, ← h, ih]

theorem not_mem_of_mem_pieces (mark : α) (cs : List α) :
    ∀ piece ∈ pieces mark cs, mark ∉ piece := by
  induction cs with
  | nil => simp [pieces]
  | cons c cs ih =>
      intro piece hp
      simp only [pieces] at hp
      split at hp
      · rcases List.mem_cons.1 hp with rfl | hp
        · simp
        · exact ih piece hp
      · next hc =>
          split at hp
          · simp only [List.mem_singleton] at hp
            subst hp
            simpa using Ne.symm hc
          · next first more h =>
              rcases List.mem_cons.1 hp with rfl | hp
              · simp only [List.mem_cons, not_or]
                exact ⟨Ne.symm hc, ih first (by simp [h])⟩
              · exact ih piece (by simp [h, hp])

end LessonAudit.Text
