import LessonAudit.Header
set_option autoImplicit false

namespace LessonAudit.Header

structure FirstMark (text before after : List Char) : Prop where
  text_eq : text = before ++ mark ++ after
  first : ∀ b a, text = b ++ mark ++ a → before.length ≤ b.length

theorem FirstMark.unique {text before after before' after' : List Char}
    (h : FirstMark text before after) (h' : FirstMark text before' after') :
    before = before' ∧ after = after' := by
  have length_eq : before.length = before'.length :=
    Nat.le_antisymm (h.first _ _ h'.text_eq) (h'.first _ _ h.text_eq)
  have both : before ++ (mark ++ after) = before' ++ (mark ++ after') := by
    rw [← List.append_assoc, ← List.append_assoc, ← h.text_eq, ← h'.text_eq]
  obtain ⟨same, rest⟩ := List.append_inj both length_eq
  exact ⟨same, List.append_cancel_left rest⟩

theorem firstMark_nil_left (rest : List Char) : FirstMark (mark ++ rest) [] rest :=
  ⟨rfl, fun _ _ _ => Nat.zero_le _⟩

theorem FirstMark.cons {c : Char} {text before after : List Char}
    (none_here : ¬ mark <+: c :: text) (h : FirstMark text before after) :
    FirstMark (c :: text) (c :: before) after := by
  refine ⟨by simp [h.text_eq], ?_⟩
  intro b a text_eq
  cases b with
  | nil => exact absurd ⟨a, text_eq.symm⟩ none_here
  | cons d b =>
      have tail_eq : text = b ++ mark ++ a := (List.cons.inj text_eq).2
      exact Nat.succ_le_succ (h.first b a tail_eq)

theorem cutAtMark_cons {c : Char} {text : List Char} (none_here : ¬ mark <+: c :: text) :
    cutAtMark (c :: text) = (cutAtMark text).map fun (before, after) => (c :: before, after) := by
  apply cutAtMark.eq_3
  rintro rest rfl rfl
  exact none_here ⟨rest, rfl⟩

theorem cutAtMark_spec (text : List Char) :
    match cutAtMark text with
    | some (before, after) => FirstMark text before after
    | none => ¬ mark <:+: text := by
  induction text with
  | nil => simp [cutAtMark, mark]
  | cons c text ih =>
      by_cases here : mark <+: c :: text
      · obtain ⟨rest, text_eq⟩ := here
        rw [← text_eq]
        exact firstMark_nil_left rest
      · rw [cutAtMark_cons here]
        cases cut : cutAtMark text with
        | none =>
            simp only [cut] at ih
            simpa [List.infix_cons_iff, here] using ih
        | some parts =>
            simp only [cut] at ih
            exact ih.cons here

theorem cutAtMark_eq_some_iff {text before after : List Char} :
    cutAtMark text = some (before, after) ↔ FirstMark text before after := by
  have spec := cutAtMark_spec text
  constructor
  · intro cut
    rwa [cut] at spec
  · intro h
    cases cut : cutAtMark text with
    | none =>
        simp only [cut] at spec
        exact absurd ⟨before, after, h.text_eq.symm⟩ spec
    | some parts =>
        simp only [cut] at spec
        obtain ⟨rfl, rfl⟩ := spec.unique h
        rfl

theorem cutAtMark_eq_none_iff {text : List Char} : cutAtMark text = none ↔ ¬ mark <:+: text := by
  have spec := cutAtMark_spec text
  constructor
  · intro cut
    rwa [cut] at spec
  · intro absent
    cases cut : cutAtMark text with
    | none => rfl
    | some parts =>
        simp only [cut] at spec
        exact absurd ⟨_, _, spec.text_eq.symm⟩ absent

structure Block (text before raw body : List Char) : Prop where
  opened : FirstMark text before (raw ++ mark ++ body)
  closed : FirstMark (raw ++ mark ++ body) raw body

theorem Block.text_eq {text before raw body : List Char} (h : Block text before raw body) :
    text = before ++ mark ++ (raw ++ mark ++ body) :=
  h.opened.text_eq

theorem Block.unique {text before raw body before' raw' body' : List Char}
    (h : Block text before raw body) (h' : Block text before' raw' body') :
    before = before' ∧ raw = raw' ∧ body = body' := by
  obtain ⟨before_eq, rest_eq⟩ := h.opened.unique h'.opened
  have closed := h.closed
  rw [rest_eq] at closed
  exact ⟨before_eq, closed.unique h'.closed⟩

theorem exists_firstMark {text : List Char} (present : mark <:+: text) :
    ∃ before after, FirstMark text before after := by
  cases cut : cutAtMark text with
  | none => exact absurd present (cutAtMark_eq_none_iff.1 cut)
  | some parts => exact ⟨_, _, cutAtMark_eq_some_iff.1 cut⟩

theorem exists_block {text left between right : List Char}
    (text_eq : text = left ++ mark ++ (between ++ mark ++ right)) :
    ∃ before raw body, Block text before raw body := by
  obtain ⟨before, after, opened⟩ := exists_firstMark ⟨left, _, text_eq.symm⟩
  have order := opened.first _ _ text_eq
  -- the second mark lies behind the first one, so it is found in what the first cut leaves
  have inside : mark <:+: after := by
    have split_eq : before ++ mark ++ after = left ++ mark ++ between ++ (mark ++ right) := by
      rw [← opened.text_eq, text_eq]
      simp
    have shorter : (before ++ mark).length ≤ (left ++ mark ++ between).length := by
      simp only [List.length_append]
      omega
    obtain ⟨gap, gap_eq⟩ := List.prefix_of_prefix_length_le
      (List.prefix_append (before ++ mark) after) (split_eq ▸ List.prefix_append _ _) shorter
    refine ⟨gap, right, ?_⟩
    apply (List.append_right_inj (before ++ mark)).1
    rw [split_eq, ← gap_eq]
    simp
  obtain ⟨raw, body, closed⟩ := exists_firstMark inside
  have after_eq := closed.text_eq
  exact ⟨before, raw, body, after_eq ▸ opened, after_eq ▸ closed⟩

theorem split_of_block {text : String} {before raw body : List Char}
    (h : Block text.toList before raw body) :
    split text = ⟨some (String.ofList raw), raw.count '\n', String.ofList body⟩ := by
  simp only [split, cutAtMark_eq_some_iff.2 h.opened, cutAtMark_eq_some_iff.2 h.closed]

theorem split_of_no_block {text : String}
    (none_there : ∀ before raw body, ¬ Block text.toList before raw body) :
    split text = ⟨none, 0, text⟩ := by
  unfold split
  cases opening : cutAtMark text.toList with
  | none => rfl
  | some parts =>
      obtain ⟨before, rest⟩ := parts
      cases closing : cutAtMark rest with
      | none => simp [closing]
      | some parts =>
          obtain ⟨raw, body⟩ := parts
          have opened := cutAtMark_eq_some_iff.1 opening
          have closed := cutAtMark_eq_some_iff.1 closing
          have rest_eq := closed.text_eq
          exact absurd ⟨rest_eq ▸ opened, rest_eq ▸ closed⟩ (none_there before raw body)

end LessonAudit.Header
