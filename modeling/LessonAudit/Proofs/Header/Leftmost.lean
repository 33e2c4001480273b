import Mathlib.Order.Bounds.Defs
import LessonAudit.Proofs.Header.Marks
set_option autoImplicit false

namespace LessonAudit.Header

def MarkAt (text : List Char) (place : Nat) : Prop :=
  mark <+: text.drop place

def HasTwoMarks (text : List Char) : Prop :=
  ∃ first second, MarkAt text first ∧ MarkAt text second ∧ first + mark.length ≤ second

theorem markAt_iff {text : List Char} {place : Nat} :
    MarkAt text place ↔ ∃ left right, text = left ++ mark ++ right ∧ left.length = place := by
  constructor
  · rintro ⟨right, right_eq⟩
    refine ⟨text.take place, right, ?_, ?_⟩
    · rw [List.append_assoc, right_eq, List.take_append_drop]
    · have inside : (mark ++ right).length = text.length - place := by
        rw [right_eq, List.length_drop]
      simp only [List.length_append, mark, List.length_cons] at inside
      rw [List.length_take]
      omega
  · rintro ⟨left, right, rfl, rfl⟩
    refine ⟨right, ?_⟩
    rw [List.append_assoc, List.drop_left]

theorem markAt_append (front text : List Char) (place : Nat) :
    MarkAt (front ++ text) (front.length + place) ↔ MarkAt text place := by
  rw [MarkAt, MarkAt, List.drop_length_add_append]

theorem FirstMark.isLeast {text before after : List Char} (h : FirstMark text before after) :
    IsLeast {place | MarkAt text place} before.length := by
  constructor
  · exact markAt_iff.2 ⟨before, after, h.text_eq, rfl⟩
  · intro place found
    obtain ⟨left, right, text_eq, rfl⟩ := markAt_iff.1 found
    exact h.first left right text_eq

theorem FirstMark.no_dash_before {text before after : List Char}
    (h : FirstMark text before after) : before.getLast? ≠ some '-' := by
  intro ends
  obtain ⟨shorter, rfl⟩ := List.getLast?_eq_some_iff.1 ends
  have earlier : text = shorter ++ mark ++ ('-' :: after) := by
    simp [h.text_eq, mark]
  have order := h.first shorter ('-' :: after) earlier
  rw [List.length_append, List.length_singleton] at order
  omega

theorem hasTwoMarks_iff {text : List Char} :
    HasTwoMarks text ↔ ∃ before raw body, Block text before raw body := by
  constructor
  · rintro ⟨_, _, opening, closing, apart⟩
    obtain ⟨left, right, text_eq, rfl⟩ := markAt_iff.1 opening
    obtain ⟨longer, rest, text_eq', rfl⟩ := markAt_iff.1 closing
    -- the second mark starts behind the first one, so the first one lies in what stands before it
    have both : left ++ mark ++ right = longer ++ (mark ++ rest) := by
      rw [← text_eq, text_eq', List.append_assoc]
    obtain ⟨between, rfl⟩ := List.prefix_of_prefix_length_le
      (List.prefix_append (left ++ mark) right) (both ▸ List.prefix_append longer _)
      (by simpa using apart)
    exact exists_block (by simpa using text_eq')
  · rintro ⟨before, raw, body, block⟩
    refine ⟨before.length, (before ++ mark ++ raw).length, ?_, ?_, ?_⟩
    · exact block.opened.isLeast.1
    · exact markAt_iff.2 ⟨_, body, by simp [block.text_eq], rfl⟩
    · simp only [List.length_append]
      omega

theorem exists_parts {text : String} (two : HasTwoMarks text.toList) :
    ∃ before raw body : String, Block text.toList before.toList raw.toList body.toList := by
  obtain ⟨before, raw, body, block⟩ := hasTwoMarks_iff.1 two
  exact ⟨String.ofList before, String.ofList raw, String.ofList body, by simpa using block⟩

theorem mark_text : "---".toList = mark := rfl

/-- A page is cut at its first two marks, counted from the left, and keeps all that stands around
them; a page without two marks is its own body. -/
theorem split_leftmost (text : String) :
    (¬ HasTwoMarks text.toList ∧ split text = ⟨none, 0, text⟩) ∨
      (HasTwoMarks text.toList ∧ ∃ before raw body : String,
        text = before ++ "---" ++ raw ++ "---" ++ body ∧
        IsLeast {place | MarkAt text.toList place} before.length ∧
        IsLeast {place | MarkAt (raw ++ "---" ++ body).toList place} raw.length ∧
        before.toList.getLast? ≠ some '-' ∧ raw.toList.getLast? ≠ some '-' ∧
        (∀ place, MarkAt text.toList ((before ++ "---" ++ raw ++ "---").length + place) ↔
          MarkAt body.toList place) ∧
        split text = ⟨some raw, raw.toList.count '\n', body⟩) := by
  by_cases two : HasTwoMarks text.toList
  · right
    obtain ⟨before, raw, body, block⟩ := exists_parts two
    have text_eq : text = before ++ "---" ++ raw ++ "---" ++ body :=
      String.toList_inj.1 (by simp [block.text_eq, mark_text])
    have opened : IsLeast {place | MarkAt text.toList place} before.length := by
      simpa only [String.length_toList] using block.opened.isLeast
    have closed : IsLeast {place | MarkAt (raw ++ "---" ++ body).toList place} raw.length := by
      simpa only [String.length_toList, String.toList_append, mark_text] using
        block.closed.isLeast
    have behind (place : Nat) :
        MarkAt text.toList ((before ++ "---" ++ raw ++ "---").length + place) ↔
          MarkAt body.toList place := by
      rw [text_eq, String.toList_append, ← String.length_toList]
      exact markAt_append _ _ place
    exact ⟨two, before, raw, body, text_eq, opened, closed, block.opened.no_dash_before,
      block.closed.no_dash_before, behind, by simpa using split_of_block block⟩
  · left
    refine ⟨two, split_of_no_block fun before raw body block => ?_⟩
    exact two (hasTwoMarks_iff.2 ⟨before, raw, body, block⟩)

example : split "a-----b------c" = ⟨some "--b", 0, "---c"⟩ := by decide

end LessonAudit.Header
