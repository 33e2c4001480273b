import LessonAudit.Proofs.Text.Pieces
import Mathlib.Algebra.GroupWithZero.Nat
import Mathlib.Algebra.Order.BigOperators.Group.List
import Mathlib.Algebra.Order.Group.Nat
set_option autoImplicit false

namespace LessonAudit.Text

variable {mark : Char}

def lines (text : List Char) : List (List Char) :=
  let parts := pieces '\n' text
  if parts.getLast? = some [] then parts.dropLast else parts

def OneLine (text : String) : Prop :=
  '\n' ∉ text.toList

instance (text : String) : Decidable (OneLine text) :=
  inferInstanceAs (Decidable ('\n' ∉ text.toList))

theorem pieces_terminated (mark : Char) (parts : List (List Char)) :
    pieces mark (terminated mark parts) = parts.flatMap (pieces mark) ++ [[]] := by
  induction parts with
  | nil => rfl
  | cons part more ih => simp [pieces_append, ih]

theorem length_pieces (mark : Char) (text : List Char) :
    (pieces mark text).length = text.count mark + 1 := by
  induction text with
  | nil => rfl
  | cons c text ih =>
      by_cases same : c = mark
      · simp [pieces, same, ih]
      · obtain ⟨piece, more, cut, longer⟩ := pieces_cons same text
        rw [longer, List.length_cons, ← List.length_cons, ← cut, ih, List.count_cons_of_ne same]

theorem flatMap_pieces_eq_iff {parts : List (List Char)} :
    parts.flatMap (pieces mark) = parts ↔ ∀ part ∈ parts, mark ∉ part := by
  constructor
  · intro same part member
    rw [← same] at member
    obtain ⟨whole, -, piece⟩ := List.mem_flatMap.1 member
    exact not_mem_of_mem_pieces mark whole part piece
  · intro absent
    induction parts with
    | nil => rfl
    | cons part more ih =>
        have later := ih fun p member => absent p (List.mem_cons_of_mem _ member)
        simp [pieces_of_not_mem (absent part (by simp)), later]

theorem lines_terminated (parts : List (List Char)) :
    lines (terminated '\n' parts) = parts.flatMap (pieces '\n') := by
  simp [lines, pieces_terminated]

theorem terminated_pieces (mark : Char) (text : List Char) :
    terminated mark (pieces mark text) = text ++ [mark] := by
  induction text with
  | nil => rfl
  | cons c text ih =>
      by_cases same : c = mark
      · simp [pieces, same, ih]
      · obtain ⟨piece, more, cut, longer⟩ := pieces_cons same text
        rw [cut, terminated_cons] at ih
        rw [longer, terminated_cons, List.cons_append, ih, List.cons_append]

theorem terminated_lines (parts : List (List Char)) :
    terminated '\n' (lines (terminated '\n' parts)) = terminated '\n' parts := by
  rw [lines_terminated]
  induction parts with
  | nil => rfl
  | cons part more ih => simp [terminated_pieces, ih]

theorem length_flatMap_pieces (mark : Char) (parts : List (List Char)) :
    (parts.flatMap (pieces mark)).length =
      parts.length + (parts.map fun part => part.count mark).sum := by
  induction parts with
  | nil => rfl
  | cons part more ih =>
      simp [ih, length_pieces]
      omega

theorem length_flatMap_pieces_eq_iff {parts : List (List Char)} :
    (parts.flatMap (pieces mark)).length = parts.length ↔ ∀ part ∈ parts, mark ∉ part := by
  rw [length_flatMap_pieces, Nat.add_eq_left, List.sum_eq_zero_iff]
  simp [List.count_eq_zero]

end LessonAudit.Text
