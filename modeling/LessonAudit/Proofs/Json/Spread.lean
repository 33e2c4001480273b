import LessonAudit.Proofs.Json.Printing
set_option autoImplicit false

namespace LessonAudit.Json

open Written (lineBreak quote)

variable {w value : Written} {name : String} {depth : Nat}
  {items : List Written} {members : List (String × Written)}

theorem isGap_lineBreak (depth : Nat) : IsGap (lineBreak depth) := by
  intro c member
  rcases List.mem_cons.1 member with rfl | blank
  · simp
  · simp [List.eq_of_mem_replicate blank]

theorem isGap_blank : IsGap [' '] := by
  simp [IsGap]

theorem spells_spreadItems (inside : ∀ item ∈ w :: items, Spells item (item.spread (depth + 1))) :
    ∃ text, SpellsItems (w :: items) text ∧
      lineBreak (depth + 1) ++ w.spread (depth + 1) ++ Written.spreadItems depth items =
        text ++ [']'] := by
  induction items generalizing w with
  | nil =>
      have here := inside w (by simp)
      refine ⟨_, .last (isGap_lineBreak (depth + 1)) here (isGap_lineBreak depth), ?_⟩
      simp [Written.spreadItems]
  | cons next items ih =>
      have here := inside w (by simp)
      obtain ⟨rest, later, rest_eq⟩ := ih fun item known => inside item (List.mem_cons_of_mem _ known)
      refine ⟨_, .more (isGap_lineBreak (depth + 1)) here isGap_nil (by simp) later, ?_⟩
      rw [Written.spreadItems, rest_eq]
      simp

theorem spells_spreadMembers
    (inside : ∀ member ∈ (name, value) :: members, Spells member.2 (member.2.spread (depth + 1))) :
    ∃ text, SpellsMembers ((name, value) :: members) text ∧
      lineBreak (depth + 1) ++ quote name ++ ':' :: ' ' ::
        (value.spread (depth + 1) ++ Written.spreadMembers depth members) = text ++ ['}'] := by
  induction members generalizing name value with
  | nil =>
      have here := inside (name, value) (by simp)
      refine ⟨_, .last (isGap_lineBreak (depth + 1)) (spells_escaped name.toList) isGap_nil isGap_blank
        here (isGap_lineBreak depth), ?_⟩
      simp [Written.spreadMembers, quote]
  | cons next members ih =>
      obtain ⟨next_name, next_value⟩ := next
      have here := inside (name, value) (by simp)
      obtain ⟨rest, later, rest_eq⟩ :=
        ih fun member known => inside member (List.mem_cons_of_mem _ known)
      refine ⟨_, .more (isGap_lineBreak (depth + 1)) (spells_escaped name.toList) isGap_nil isGap_blank
        here isGap_nil (by simp) later, ?_⟩
      rw [Written.spreadMembers, rest_eq]
      simp [quote]

theorem spells_spread (numbers : ∀ x, w.Occurs x → Spells (.number x) x.write) (depth : Nat) :
    Spells w (w.spread depth) := by
  induction w using Written.induction generalizing depth with
  | simple w simple =>
      cases w with
      | null => exact .null
      | flag b =>
          cases b with
          | true => exact .yes
          | false => exact .no
      | number x => exact numbers x .here
      | text s => exact .text (spells_escaped s.toList)
      | list => exact absurd rfl simple.1
      | record => exact absurd rfl simple.2
  | list items ih =>
      cases items with
      | nil => exact .list (.none isGap_nil)
      | cons item items =>
          have inside (part : Written) (known : part ∈ item :: items) :
              Spells part (part.spread (depth + 1)) :=
            ih part known (fun x occurs => numbers x (.item known occurs)) (depth + 1)
          obtain ⟨text, written, text_eq⟩ := spells_spreadItems inside
          rw [Written.spread, text_eq]
          exact .list written
  | record members ih =>
      cases members with
      | nil => exact .record (.none isGap_nil)
      | cons member members =>
          obtain ⟨name, value⟩ := member
          have inside (part : String × Written) (known : part ∈ (name, value) :: members) :
              Spells part.2 (part.2.spread (depth + 1)) :=
            ih part known (fun x occurs => numbers x (.member known occurs)) (depth + 1)
          obtain ⟨text, written, text_eq⟩ := spells_spreadMembers inside
          rw [Written.spread, text_eq]
          exact .record written

end LessonAudit.Json
