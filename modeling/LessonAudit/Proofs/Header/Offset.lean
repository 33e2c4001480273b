import LessonAudit.Proofs.Document
import LessonAudit.Proofs.Header.Marks
import LessonAudit.Yaml.Usual
set_option autoImplicit false

namespace LessonAudit.Header

open LessonAudit.Tree (Node)

def lineAt (text : List Char) (place : Nat) : Nat :=
  1 + (text.take place).count '\n'

def bodyStart (before raw : List Char) : Nat :=
  (before ++ mark ++ (raw ++ mark)).length

theorem lineAt_append (front rest : List Char) (place : Nat) :
    lineAt (front ++ rest) (front.length + place) = front.count '\n' + lineAt rest place := by
  simp only [lineAt, List.take_length_add_append, List.count_append]
  omega

theorem lineAt_page (before raw body : List Char) (place : Nat) :
    lineAt (before ++ mark ++ (raw ++ mark ++ body)) (bodyStart before raw + place) =
      lineAt body place + raw.count '\n' + before.count '\n' := by
  have front : before ++ mark ++ (raw ++ mark ++ body) = before ++ mark ++ (raw ++ mark) ++ body := by
    simp
  rw [front, bodyStart, lineAt_append]
  have no_break : mark.count '\n' = 0 := by decide
  simp only [List.count_append, no_break]
  omega

theorem locationOf_ofText [Libraries] {path : Path} {text : String} {tree n : Node} {line : Nat}
    (located : n.location = some line) (fits : line + (split text).lines < UInt64.size) :
    (Document.ofText path text tree).locationOf n = .ofLine path (line + (split text).lines) := by
  have kept : (line + (split text).lines) % UInt64.size = line + (split text).lines :=
    Nat.mod_eq_of_lt fits
  simp only [Document.locationOf, located, Document.ofText, kept]

/-- The line of a node in the body leads to its line in the page exactly if no line break stands
above the header; without a header it is its line in the page. -/
theorem reported_line_iff [Libraries] (text : String) (path : Path) (renderer : Renderer)
    (j : Journal) :
    (∀ raw body lines, split text = ⟨some raw, lines, body⟩ →
      ∃ before, text.toList = before ++ mark ++ (raw.toList ++ mark ++ body.toList) ∧
        ∀ place, place ≤ body.toList.length →
          (lineAt text.toList (bodyStart before raw.toList + place) =
              lineAt body.toList place + lines ↔ '\n' ∉ before) ∧
          ∀ d n, (Document.parse path text renderer j).1 = some d →
            n.location = some (lineAt body.toList place) →
            lineAt body.toList place + lines < UInt64.size →
            (d.locationOf n =
                .ofLine path (lineAt text.toList (bodyStart before raw.toList + place)) ↔
              '\n' ∉ before)) ∧
    ((split text).raw = none →
      (split text).lines = 0 ∧ (split text).body = text ∧
        ∀ d n line, (Document.parse path text renderer j).1 = some d → n.location = some line →
          line < UInt64.size → d.locationOf n = .ofLine path line) := by
  constructor
  · intro raw body lines found
    by_cases present : ∃ before raw body, Block text.toList before raw body
    · obtain ⟨before, raw, body, block⟩ := present
      rw [split_of_block block] at found
      obtain ⟨rfl, rfl, rfl⟩ : String.ofList raw = _ ∧ raw.count '\n' = _ ∧ String.ofList body = _ := by
        simpa using found
      refine ⟨before, by simpa using block.text_eq, ?_⟩
      intro place _
      have shift : lineAt text.toList (bodyStart before raw + place) =
          lineAt body place + raw.count '\n' + before.count '\n' := by
        rw [block.text_eq, lineAt_page]
      have exact_when : lineAt text.toList (bodyStart before raw + place) =
          lineAt body place + raw.count '\n' ↔ '\n' ∉ before := by
        rw [shift, ← List.count_eq_zero]
        omega
      refine ⟨by simpa using exact_when, ?_⟩
      intro d n parsed located fits
      obtain ⟨tree, -, rfl⟩ := Document.eq_ofText_of_parse parsed
      rw [locationOf_ofText located (by rw [split_of_block block]; exact fits), split_of_block block]
      simp only [String.toList_ofList, Location.ofLine, Location.mk.injEq, Option.some.injEq,
        true_and]
      rw [eq_comm, exact_when]
    · simp only [not_exists] at present
      simp [split_of_no_block present] at found
  · intro absent
    have none_there : ∀ before raw body, ¬ Block text.toList before raw body := by
      intro before raw body block
      simp [split_of_block block] at absent
    refine ⟨by rw [split_of_no_block none_there], by rw [split_of_no_block none_there], ?_⟩
    intro d n line parsed located fits
    obtain ⟨tree, -, rfl⟩ := Document.eq_ofText_of_parse parsed
    rw [locationOf_ofText located (by rw [split_of_no_block none_there]; exact fits),
      split_of_no_block none_there]
    rfl

theorem line_above_header_not_counted :
    split "a\n---\nt: b\n---\nc\n" = ⟨some "\nt: b\n", 2, "\nc\n"⟩ ∧
      lineAt "\nc\n".toList 1 = 2 ∧
      lineAt "a\n---\nt: b\n---\nc\n".toList (bodyStart "a\n".toList "\nt: b\n".toList + 1) = 5 ∧
      (Document.parse ⟨"a.md"⟩ "a\n---\nt: b\n---\nc\n"
          (fun _ => .ok ((Node.ofKind "p").withLocation 2)) .empty).1.map
        (fun d => d.locationOf d.tree) = some (.ofLine ⟨"a.md"⟩ 4) := by
  refine ⟨by decide, by decide, by decide, ?_⟩
  rw [Document.parse_document_of_ok .empty rfl]
  decide

end LessonAudit.Header
