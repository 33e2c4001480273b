import LessonAudit.Text.Pieces
set_option autoImplicit false

namespace LessonAudit.Text

variable {α : Type} {mark : α}

def terminated (mark : α) (parts : List (List α)) : List α :=
  parts.flatMap fun part => part ++ [mark]

def preceded (mark : α) (parts : List (List α)) : List α :=
  parts.flatMap fun part => mark :: part

@[simp] theorem terminated_nil : terminated mark [] = [] := rfl

@[simp] theorem terminated_cons (part : List α) (more : List (List α)) :
    terminated mark (part :: more) = part ++ mark :: terminated mark more := by
  simp [terminated]

@[simp] theorem terminated_append (left right : List (List α)) :
    terminated mark (left ++ right) = terminated mark left ++ terminated mark right := by
  simp [terminated]

@[simp] theorem preceded_nil : preceded mark [] = [] := rfl

@[simp] theorem preceded_cons (part : List α) (more : List (List α)) :
    preceded mark (part :: more) = mark :: part ++ preceded mark more := by
  simp [preceded]

@[simp] theorem preceded_append (left right : List (List α)) :
    preceded mark (left ++ right) = preceded mark left ++ preceded mark right := by
  simp [preceded]

theorem preceded_append_mark (parts : List (List α)) :
    preceded mark parts ++ [mark] = mark :: terminated mark parts := by
  induction parts with
  | nil => rfl
  | cons part more ih => simp [ih]

theorem terminated_ends (mark : α) (parts : List (List α)) :
    terminated mark parts = [] ∨ (terminated mark parts).getLast? = some mark := by
  induction parts with
  | nil => exact .inl rfl
  | cons part more ih =>
      right
      rcases ih with empty | ends
      · simp [empty]
      · simp [List.getLast?_append, List.getLast?_cons, ends]

theorem preceded_starts (mark : α) (parts : List (List α)) :
    preceded mark parts = [] ∨ (preceded mark parts).head? = some mark := by
  cases parts <;> simp

theorem joined_eq (left right : List (List α)) (part : List α) :
    joined mark (left ++ part :: right) = terminated mark left ++ (part ++ preceded mark right) := by
  induction left with
  | nil =>
      induction right generalizing part with
      | nil => simp [joined]
      | cons next right ih => simpa [joined] using ih next
  | cons first left ih =>
      have more : left ++ part :: right ≠ [] := by simp
      cases rest : left ++ part :: right with
      | nil => exact absurd rest more
      | cons next others => simp [rest, joined, ← ih]

theorem not_mem_joined {c : α} {parts : List (List α)} (other : c ≠ mark)
    (absent : ∀ part ∈ parts, c ∉ part) : c ∉ joined mark parts := by
  induction parts with
  | nil => simp [joined]
  | cons part more ih =>
      have later := ih fun p member => absent p (List.mem_cons_of_mem _ member)
      cases more with
      | nil => simpa [joined] using absent part (by simp)
      | cons next rest => simp [joined, other, later, absent part (by simp)]

def Whole (mark : α) (text : List α) : Prop :=
  text = [] ∨ text.getLast? = some mark

theorem suffix_append_iff {ending before text : List α} (free : mark ∉ ending)
    (whole : Whole mark before) : ending <:+ before ++ text ↔ ending <:+ text := by
  refine ⟨fun ends => ?_, fun ends => ends.trans (List.suffix_append before text)⟩
  rcases List.suffix_or_suffix_of_suffix ends (List.suffix_append before text) with inside | longer
  · exact inside
  · obtain ⟨more, rfl⟩ := longer
    obtain ⟨front, same⟩ := ends
    rw [← List.append_assoc] at same
    obtain rfl := List.append_cancel_right same
    cases more with
    | nil => exact List.suffix_refl text
    | cons c more =>
        rcases whole with empty | marked
        · simp at empty
        · -- the last character of what comes before would be a mark in the ending
          have last : (c :: more).getLast? = some mark := by
            simpa [List.getLast?_append, List.getLast?_cons] using marked
          exact absurd (List.mem_append_left text (List.mem_of_getLast? last)) free

variable [DecidableEq α]

theorem pieces_cons {c : α} (other : c ≠ mark) (text : List α) :
    ∃ piece more, pieces mark text = piece :: more ∧ pieces mark (c :: text) = (c :: piece) :: more := by
  cases cut : pieces mark text with
  | nil => exact absurd cut (pieces_ne_nil mark text)
  | cons piece more => exact ⟨piece, more, rfl, by simp [pieces, other, cut]⟩

theorem pieces_append (mark : α) (left right : List α) :
    pieces mark (left ++ mark :: right) = pieces mark left ++ pieces mark right := by
  induction left with
  | nil => simp [pieces]
  | cons c left ih =>
      by_cases same : c = mark
      · simp [pieces, same, ih]
      · obtain ⟨piece, more, cut, -⟩ := pieces_cons same left
        simp [pieces, same, ih, cut]

theorem pieces_of_not_mem {text : List α} (absent : mark ∉ text) :
    pieces mark text = [text] := by
  induction text with
  | nil => rfl
  | cons c text ih =>
      simp only [List.mem_cons, not_or] at absent
      simp [pieces, Ne.symm absent.1, ih absent.2]

theorem not_mem_of_mem_pieces_of_not_mem {c : α} {text : List α} (absent : c ∉ text) :
    ∀ piece ∈ pieces mark text, c ∉ piece := by
  induction text with
  | nil => simp [pieces]
  | cons d text ih =>
      simp only [List.mem_cons, not_or] at absent
      intro piece member
      by_cases same : d = mark
      · simp only [pieces, if_pos same, List.mem_cons] at member
        rcases member with rfl | later
        · simp
        · exact ih absent.2 piece later
      · obtain ⟨next, more, cut, longer⟩ := pieces_cons same text
        rw [longer] at member
        rcases List.mem_cons.1 member with rfl | later
        · simpa [absent.1] using ih absent.2 next (by simp [cut])
        · exact ih absent.2 piece (by simp [cut, later])

theorem pieces_joint {left right : List (List α)} {part : List α}
    (whole : ∀ p ∈ left ++ part :: right, mark ∉ p) :
    pieces mark (terminated mark left ++ (part ++ preceded mark right)) = left ++ part :: right := by
  induction left with
  | nil =>
      induction right generalizing part with
      | nil => simpa using pieces_of_not_mem (whole part (by simp))
      | cons next right ih =>
          have later : pieces mark (terminated mark [] ++ (next ++ preceded mark right)) =
              [] ++ next :: right := ih fun p member => whole p (by simp_all)
          have here := pieces_of_not_mem (whole part (by simp))
          simpa [pieces_append, here] using later
  | cons first left ih =>
      have later := ih fun p member => whole p (List.mem_cons_of_mem _ member)
      have here := pieces_of_not_mem (whole first (by simp))
      simp [pieces_append, here, later]

theorem pieces_joined {part : List α} {more : List (List α)}
    (whole : ∀ p ∈ part :: more, mark ∉ p) :
    pieces mark (joined mark (part :: more)) = part :: more := by
  have text_eq : joined mark ([] ++ part :: more) = _ := joined_eq [] more part
  rw [List.nil_append] at text_eq
  rw [text_eq]
  exact pieces_joint (show ∀ p ∈ [] ++ part :: more, mark ∉ p from whole)

theorem not_mem_pieces_iff {c : α} {text : List α} (other : c ≠ mark) :
    (∀ piece ∈ pieces mark text, c ∉ piece) ↔ c ∉ text := by
  refine ⟨fun absent => ?_, not_mem_of_mem_pieces_of_not_mem⟩
  rw [← joined_pieces mark text]
  exact not_mem_joined other absent

theorem text_eq_of_pieces {text : List α} {left right : List (List α)} {part : List α}
    (cut : pieces mark text = left ++ part :: right) :
    text = terminated mark left ++ (part ++ preceded mark right) := by
  rw [← joined_eq, ← cut, joined_pieces]

theorem exists_terminated {text : List α} (h : text = [] ∨ text.getLast? = some mark) :
    ∃ parts, text = terminated mark parts ∧ ∀ part ∈ parts, mark ∉ part := by
  rcases h with rfl | ends
  · exact ⟨[], rfl, by simp⟩
  · obtain ⟨front, rfl⟩ := List.getLast?_eq_some_iff.1 ends
    refine ⟨pieces mark front, ?_, not_mem_of_mem_pieces mark front⟩
    cases cut : pieces mark front with
    | nil => exact absurd cut (pieces_ne_nil mark front)
    | cons first more =>
        have front_eq := text_eq_of_pieces (show pieces mark front = [] ++ first :: more from cut)
        rw [front_eq]
        simp [preceded_append_mark]

theorem exists_preceded {text : List α} (h : text = [] ∨ text.head? = some mark) :
    ∃ parts, text = preceded mark parts ∧ ∀ part ∈ parts, mark ∉ part := by
  rcases h with rfl | starts
  · exact ⟨[], rfl, by simp⟩
  · obtain ⟨rest, rfl⟩ := List.head?_eq_some_iff.1 starts
    refine ⟨pieces mark rest, ?_, not_mem_of_mem_pieces mark rest⟩
    cases cut : pieces mark rest with
    | nil => exact absurd cut (pieces_ne_nil mark rest)
    | cons first more =>
        have rest_eq := text_eq_of_pieces (show pieces mark rest = [] ++ first :: more from cut)
        rw [rest_eq]
        simp

theorem pieces_terminated_append {parts : List (List α)} (whole : ∀ part ∈ parts, mark ∉ part)
    (text : List α) : pieces mark (terminated mark parts ++ text) = parts ++ pieces mark text := by
  induction parts with
  | nil => rfl
  | cons part more ih =>
      have here := pieces_of_not_mem (whole part (by simp))
      have later := ih fun p member => whole p (List.mem_cons_of_mem _ member)
      simp [pieces_append, here, later]

theorem getLast?_pieces_iff {text name : List α} :
    (pieces mark text).getLast? = some name ↔
      mark ∉ name ∧ ∃ before, Whole mark before ∧ text = before ++ name := by
  constructor
  · intro last
    obtain ⟨front, cut⟩ := List.getLast?_eq_some_iff.1 last
    refine ⟨not_mem_of_mem_pieces mark text name (by simp [cut]), terminated mark front,
      terminated_ends mark front, ?_⟩
    simpa using text_eq_of_pieces cut
  · rintro ⟨free, before, whole, rfl⟩
    obtain ⟨parts, rfl, parts_free⟩ := exists_terminated whole
    rw [pieces_terminated_append parts_free, pieces_of_not_mem free, List.getLast?_concat]

theorem eq_of_last_piece {before other name last : List α} (free : mark ∉ name)
    (free' : mark ∉ last) (same : before ++ mark :: name = other ++ mark :: last) :
    before = other ∧ name = last := by
  have cut := congrArg (pieces mark) same
  rw [pieces_append, pieces_append, pieces_of_not_mem free, pieces_of_not_mem free'] at cut
  obtain rfl : name = last := (List.cons.inj (List.append_inj_right' cut rfl)).1
  exact ⟨List.append_cancel_right same, rfl⟩

end LessonAudit.Text
