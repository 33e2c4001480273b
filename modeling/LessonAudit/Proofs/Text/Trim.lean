import LessonAudit.Text.Blank
set_option autoImplicit false

namespace LessonAudit.Text

-- The text is `rest` with blanks around it, and `rest` neither starts nor ends with one.
structure Trims (text rest : List Char) : Prop where
  around : ∃ front back, text = front ++ (rest ++ back) ∧
    ∀ c ∈ front ++ back, isBlank c = true
  starts : ∀ c, rest.head? = some c → isBlank c = false
  ends : ∀ c, rest.getLast? = some c → isBlank c = false

theorem head?_trimStart {text : List Char} {c : Char}
    (first : (trimStart text).head? = some c) : isBlank c = false := by
  have found := List.head?_dropWhile_not isBlank text
  rw [← trimStart, first] at found
  simpa using found

theorem exists_trimStart (text : List Char) :
    ∃ front, text = front ++ trimStart text ∧ ∀ c ∈ front, isBlank c = true :=
  ⟨text.takeWhile isBlank, List.takeWhile_append_dropWhile.symm,
    List.all_eq_true.1 List.all_takeWhile⟩

theorem trims_trim (text : List Char) : Trims text (trim text) := by
  obtain ⟨front, text_eq, front_blank⟩ := exists_trimStart text
  obtain ⟨back, rest_eq, back_blank⟩ := exists_trimStart (trimStart text).reverse
  have middle : trimStart text = trim text ++ back.reverse := by
    rw [trim, ← List.reverse_append, ← rest_eq, List.reverse_reverse]
  refine ⟨⟨front, back.reverse, by rw [← middle, ← text_eq], fun c member => ?_⟩, fun c first => ?_,
    fun c last => ?_⟩
  · rcases List.mem_append.1 member with before | behind
    · exact front_blank c before
    · exact back_blank c (List.mem_reverse.1 behind)
  · have whole : (trimStart text).head? = some c := by
      rw [middle, List.head?_append, first]
      rfl
    exact head?_trimStart whole
  · rw [trim, List.getLast?_reverse] at last
    exact head?_trimStart last

end LessonAudit.Text
