import LessonAudit.Proofs.Header.Marks
import LessonAudit.Proofs.Text.Pieces
set_option autoImplicit false

namespace LessonAudit.Header

open Text (pieces terminated preceded)

def cutAtDelimiter : List (List Char) → Option (List (List Char) × List (List Char))
  | [] => none
  | line :: more =>
      if line = mark then some ([], more)
      else (cutAtDelimiter more).map fun (above, below) => (line :: above, below)

theorem cutAtDelimiter_append {above below : List (List Char)} (free : mark ∉ above) :
    cutAtDelimiter (above ++ mark :: below) = some (above, below) := by
  induction above with
  | nil => simp [cutAtDelimiter]
  | cons line above ih =>
      simp only [List.mem_cons, not_or] at free
      simp [cutAtDelimiter, Ne.symm free.1, ih free.2]

theorem cutAtDelimiter_eq_none_iff {lines : List (List Char)} :
    cutAtDelimiter lines = none ↔ mark ∉ lines := by
  induction lines with
  | nil => simp [cutAtDelimiter]
  | cons line more ih =>
      by_cases delimiter : line = mark
      · simp [cutAtDelimiter, delimiter]
      · simp [cutAtDelimiter, delimiter, ih, Ne.symm delimiter]

theorem cutAtDelimiter_eq_some_iff {lines above below : List (List Char)} :
    cutAtDelimiter lines = some (above, below) ↔ lines = above ++ mark :: below ∧ mark ∉ above := by
  constructor
  · intro cut
    have present : mark ∈ lines :=
      Decidable.byContradiction fun absent => by simp [cutAtDelimiter_eq_none_iff.2 absent] at cut
    obtain ⟨upper, lower, rfl, free⟩ := List.eq_append_cons_of_mem present
    rw [cutAtDelimiter_append free] at cut
    obtain ⟨rfl, rfl⟩ := Prod.mk.inj (Option.some.inj cut)
    exact ⟨rfl, free⟩
  · rintro ⟨rfl, free⟩
    exact cutAtDelimiter_append free

def rawOf (inner : List (List Char)) : List Char :=
  '\n' :: terminated '\n' inner

def bodyOf (below : List (List Char)) : List Char :=
  preceded '\n' below

def ofLines (inner below : List (List Char)) : Split :=
  ⟨some (String.ofList (rawOf inner)), (rawOf inner).count '\n', String.ofList (bodyOf below)⟩

def splitAtDelimiters (text : String) : Split :=
  match cutAtDelimiter (pieces '\n' text.toList) with
  | none => ⟨none, 0, text⟩
  | some (_, rest) =>
      match cutAtDelimiter rest with
      | none => ⟨none, 0, text⟩
      | some (inner, below) => ofLines inner below

def delimited (above inner below : List (List Char)) : List Char :=
  terminated '\n' above ++ mark ++ (rawOf inner ++ mark ++ bodyOf below)

theorem mark_no_break : '\n' ∉ mark := by decide

theorem delimited_eq (above inner below : List (List Char)) :
    delimited above inner below =
      terminated '\n' above ++ (mark ++ preceded '\n' (inner ++ mark :: below)) := by
  have joint : preceded '\n' inner ++ ['\n'] = rawOf inner := Text.preceded_append_mark inner
  rw [Text.preceded_append, Text.preceded_cons, delimited, bodyOf, ← joint]
  simp

theorem pieces_delimited {above inner below : List (List Char)}
    (whole : ∀ line ∈ above ++ inner ++ below, '\n' ∉ line) :
    pieces '\n' (delimited above inner below) = above ++ mark :: (inner ++ mark :: below) := by
  rw [delimited_eq]
  apply Text.pieces_joint
  intro line member
  have known : line = mark ∨ line ∈ above ++ inner ++ below := by
    simp only [List.mem_append, List.mem_cons] at member ⊢
    rcases member with h | h | h | h | h <;> simp [h]
  rcases known with rfl | known
  · exact mark_no_break
  · exact whole line known

theorem splitAtDelimiters_delimited {text : String} {above inner below : List (List Char)}
    (text_eq : text.toList = delimited above inner below)
    (whole : ∀ line ∈ above ++ inner ++ below, '\n' ∉ line)
    (free_above : mark ∉ above) (free_inner : mark ∉ inner) :
    splitAtDelimiters text = ofLines inner below := by
  simp only [splitAtDelimiters, text_eq, pieces_delimited whole,
    cutAtDelimiter_append free_above, cutAtDelimiter_append free_inner]

theorem splitAtDelimiters_cases (text : String) :
    splitAtDelimiters text = ⟨none, 0, text⟩ ∨
      ∃ above inner below, text.toList = delimited above inner below ∧
        splitAtDelimiters text = ofLines inner below := by
  unfold splitAtDelimiters
  cases opening : cutAtDelimiter (pieces '\n' text.toList) with
  | none => exact .inl rfl
  | some parts =>
      obtain ⟨above, rest⟩ := parts
      cases closing : cutAtDelimiter rest with
      | none => exact .inl (by simp [closing])
      | some parts =>
          obtain ⟨inner, below⟩ := parts
          refine .inr ⟨above, inner, below, ?_, by simp [closing]⟩
          have lines_eq := (cutAtDelimiter_eq_some_iff.1 opening).1
          rw [(cutAtDelimiter_eq_some_iff.1 closing).1] at lines_eq
          rw [delimited_eq]
          exact Text.text_eq_of_pieces lines_eq

theorem splitAtDelimiters_isSome_iff (text : String) :
    (splitAtDelimiters text).raw.isSome ↔ 2 ≤ (pieces '\n' text.toList).count mark := by
  unfold splitAtDelimiters
  cases opening : cutAtDelimiter (pieces '\n' text.toList) with
  | none =>
      have absent := cutAtDelimiter_eq_none_iff.1 opening
      simp [List.count_eq_zero_of_not_mem absent]
  | some parts =>
      obtain ⟨above, rest⟩ := parts
      obtain ⟨lines_eq, free⟩ := cutAtDelimiter_eq_some_iff.1 opening
      have count_eq : (pieces '\n' text.toList).count mark = rest.count mark + 1 := by
        simp [lines_eq, List.count_append, List.count_eq_zero_of_not_mem free]
      cases closing : cutAtDelimiter rest with
      | none =>
          have absent := cutAtDelimiter_eq_none_iff.1 closing
          simp [closing, count_eq, List.count_eq_zero_of_not_mem absent]
      | some parts =>
          have present : 0 < rest.count mark := by
            rw [List.count_pos_iff, (cutAtDelimiter_eq_some_iff.1 closing).1]
            simp
          simp only [closing, count_eq, ofLines, Option.isSome_some, true_iff]
          omega

def IsDelimiter (before after : List Char) : Prop :=
  (before = [] ∨ before.getLast? = some '\n') ∧ (after = [] ∨ after.head? = some '\n')

/-- The first two marks of a page, if it has as many, are lines of their own. -/
def MarksAreLines (text : List Char) : Prop :=
  ∀ before raw body, Block text before raw body →
    IsDelimiter before (raw ++ mark ++ body) ∧ IsDelimiter (before ++ mark ++ raw) body

theorem FirstMark.free {text after : List Char} {above : List (List Char)}
    (h : FirstMark text (terminated '\n' above) after) : mark ∉ above := by
  intro member
  obtain ⟨upper, lower, rfl⟩ := List.append_of_mem member
  have earlier := h.first (terminated '\n' upper) ('\n' :: terminated '\n' lower ++ mark ++ after)
    (by simp [h.text_eq])
  simp only [Text.terminated_append, Text.terminated_cons, List.length_append, mark] at earlier
  simp only [List.length_cons, List.length_nil] at earlier
  omega

theorem delimited_marks (above inner below : List (List Char)) :
    IsDelimiter (terminated '\n' above) (rawOf inner ++ mark ++ bodyOf below) ∧
      IsDelimiter (terminated '\n' above ++ mark ++ rawOf inner) (bodyOf below) := by
  refine ⟨⟨Text.terminated_ends _ above, .inr rfl⟩, .inr ?_, Text.preceded_starts _ below⟩
  have ends : (rawOf inner).getLast? = some '\n' := by
    rcases Text.terminated_ends '\n' inner with empty | ends
    · simp [rawOf, empty]
    · simp [rawOf, List.getLast?_cons, ends]
  simp [List.getLast?_append, ends]

theorem Block.delimited {text before raw body : List Char} (h : Block text before raw body)
    (opening : IsDelimiter before (raw ++ mark ++ body))
    (closing : IsDelimiter (before ++ mark ++ raw) body) :
    ∃ above inner below, before = terminated '\n' above ∧ raw = rawOf inner ∧
      body = bodyOf below ∧ (∀ line ∈ above ++ inner ++ below, '\n' ∉ line) ∧
      mark ∉ above ∧ mark ∉ inner := by
  obtain ⟨above, rfl, whole_above⟩ := Text.exists_terminated opening.1
  obtain ⟨below, rfl, whole_below⟩ := Text.exists_preceded closing.2
  -- the header starts with the break behind the first mark, so it is not empty
  obtain ⟨rest, rfl⟩ : ∃ rest, raw = '\n' :: rest := by
    rcases opening.2 with empty | starts
    · simp [mark] at empty
    · cases raw with
      | nil => simp [mark] at starts
      | cons c rest => exact ⟨rest, by simpa using starts⟩
  have rest_ends : rest = [] ∨ rest.getLast? = some '\n' := by
    rcases closing.1 with empty | ends
    · simp [mark] at empty
    · cases rest with
      | nil => exact .inl rfl
      | cons c more => exact .inr (by simpa [List.getLast?_append] using ends)
  obtain ⟨inner, rfl, whole_inner⟩ := Text.exists_terminated rest_ends
  refine ⟨above, inner, below, rfl, rfl, rfl, ?_, h.opened.free, ?_⟩
  · intro line member
    rcases List.mem_append.1 member with upper | lower
    · rcases List.mem_append.1 upper with first | second
      · exact whole_above line first
      · exact whole_inner line second
    · exact whole_below line lower
  · -- behind the first mark the header has an empty line above its own lines
    have closed : FirstMark _ (terminated '\n' ([] :: inner)) _ := h.closed
    exact fun member => closed.free (List.mem_cons_of_mem _ member)

theorem splitAtDelimiters_of_no_block {text : String}
    (none_there : ∀ before raw body, ¬ Block text.toList before raw body) :
    splitAtDelimiters text = ⟨none, 0, text⟩ := by
  rcases splitAtDelimiters_cases text with absent | ⟨above, inner, below, text_eq, -⟩
  · exact absent
  · obtain ⟨before, raw, body, block⟩ := exists_block text_eq
    exact absurd block (none_there before raw body)

/-- Two lines or more that are delimiters make a header; a page is split at the first two of them
exactly if its first two marks are lines of their own, or it has no two marks. -/
theorem split_eq_splitAtDelimiters_iff (text : String) :
    ((splitAtDelimiters text).raw.isSome ↔ 2 ≤ (pieces '\n' text.toList).count mark) ∧
      (split text = splitAtDelimiters text ↔ MarksAreLines text.toList) := by
  refine ⟨splitAtDelimiters_isSome_iff text, ?_⟩
  constructor
  · intro same before raw body block
    rw [split_of_block block] at same
    rcases splitAtDelimiters_cases text with absent | ⟨above, inner, below, text_eq, found⟩
    · simp [absent] at same
    · simp only [found, ofLines, Split.mk.injEq, Option.some.injEq, String.ofList_inj] at same
      obtain ⟨rfl, -, rfl⟩ := same
      have before_eq : before = terminated '\n' above := by
        have both := block.text_eq.symm.trans text_eq
        simpa only [delimited, List.append_assoc, List.append_cancel_right_eq] using both
      rw [before_eq]
      exact delimited_marks above inner below
  · intro lines
    by_cases present : ∃ before raw body, Block text.toList before raw body
    · obtain ⟨before, raw, body, block⟩ := present
      obtain ⟨opening, closing⟩ := lines before raw body block
      obtain ⟨above, inner, below, rfl, rfl, rfl, whole, free_above, free_inner⟩ :=
        block.delimited opening closing
      rw [split_of_block block,
        splitAtDelimiters_delimited block.text_eq whole free_above free_inner, ofLines]
    · simp only [not_exists] at present
      rw [split_of_no_block present, splitAtDelimiters_of_no_block present]

theorem split_at_dashes_of_value :
    split "---\ntitle: a---b\n---\nx\n" = ⟨some "\ntitle: a", 1, "b\n---\nx\n"⟩ ∧
      splitAtDelimiters "---\ntitle: a---b\n---\nx\n" =
        ⟨some "\ntitle: a---b\n", 2, "\nx\n"⟩ := by
  decide

end LessonAudit.Header
