import LessonAudit.Proofs.Path.Join
import LessonAudit.Proofs.Path.Text
set_option autoImplicit false

namespace LessonAudit.Path

open Text.Utf8 (encode decodeLossy lossy)

variable {p : Path} {piece : List UInt8}

-- A piece as it is once its text is written again.
def shown (piece : List UInt8) : List UInt8 :=
  encode (decodeLossy piece)

theorem lossy_shown : lossy (shown piece) = lossy piece := by
  rw [shown, Text.Utf8.lossy_encode, decodeLossy, String.toList_ofList]

theorem shown_encode_iff {text : String} (unmarked : Char.ofNat 0xFFFD ∉ text.toList) :
    shown piece = encode text ↔ piece = encode text := by
  rw [← Text.Utf8.lossy_eq_iff unmarked, ← Text.Utf8.lossy_eq_iff unmarked, lossy_shown]

theorem shown_eq_nil_iff : shown piece = [] ↔ piece = [] :=
  @shown_encode_iff piece "" (by decide)

theorem shown_eq_dot_iff : shown piece = [dot] ↔ piece = [dot] :=
  @shown_encode_iff piece "." (by decide)

theorem isIdle_shown : isIdle (shown piece) = isIdle piece := by
  simp [isIdle, shown_eq_nil_iff, shown_eq_dot_iff, Bool.beq_eq_decide_eq]

theorem headOf_shown : headOf (shown piece) = headOf piece := by
  simp [headOf, shown_eq_nil_iff, shown_eq_dot_iff]

theorem solid_shown (body : List (List UInt8)) : solid (body.map shown) = (solid body).map shown := by
  simp [solid, List.filter_map, Function.comp_def, isIdle_shown]

theorem slash_mem_shown_iff : slash ∈ shown piece ↔ slash ∈ piece := by
  rw [← slash_mem_lossy_iff, ← slash_mem_lossy_iff, lossy_shown]

theorem shown_append_slash (front back : List UInt8) :
    shown (front ++ slash :: back) = shown front ++ slash :: shown back := by
  have slash_eq : Text.Utf8.encodeChar '/' = [slash] := by decide
  simp [shown, decodeLossy, lossy_append_slash, encode, slash_eq]

theorem shown_joined (parts : List (List UInt8)) :
    shown (Text.joined slash parts) = Text.joined slash (parts.map shown) := by
  induction parts with
  | nil => rfl
  | cons part more ih =>
      cases more with
      | nil => rfl
      | cons next rest => simpa [Text.joined, shown_append_slash] using ih

theorem pieces_shown (bytes : List UInt8) :
    Text.pieces slash (shown bytes) = (Text.pieces slash bytes).map shown := by
  obtain ⟨first, more, cut⟩ := List.exists_cons_of_ne_nil (Text.pieces_ne_nil slash bytes)
  have free : ∀ piece ∈ (first :: more).map shown, slash ∉ piece := by
    intro piece member
    obtain ⟨part, part_member, rfl⟩ := List.mem_map.1 member
    rw [slash_mem_shown_iff]
    exact Text.not_mem_of_mem_pieces slash bytes part (cut ▸ part_member)
  have shown_eq := shown_joined (first :: more)
  rw [← cut, Text.joined_pieces, cut] at shown_eq
  rw [shown_eq, cut]
  exact Text.pieces_joined free

theorem cut_shown (p : Path) :
    (Path.mk (shown p.bytes)).cut = ⟨p.cut.head, p.cut.body.map shown⟩ := by
  by_cases written : p.bytes = []
  · have shown_nil : shown [] = [] := rfl
    simp [cut, shown_nil, written, Text.pieces]
  · have shown_written := mt shown_eq_nil_iff.1 written
    obtain ⟨first, more, pieces_eq⟩ := List.exists_cons_of_ne_nil (Text.pieces_ne_nil slash p.bytes)
    have shown_pieces := pieces_shown p.bytes
    rw [pieces_eq, List.map_cons] at shown_pieces
    rw [cut_of_pieces pieces_eq written, cut_of_pieces (p := ⟨shown p.bytes⟩) shown_pieces shown_written,
      headOf_shown]
    cases headOf first <;> rfl

theorem shown_of_idle (idle : isIdle piece = true) : shown piece = piece := by
  have either : piece = [] ∨ piece = [dot] := by simpa [isIdle] using idle
  rcases either with rfl | rfl <;> rfl

theorem mem_solid (member : piece ∈ Text.pieces slash p.bytes) (kept : isIdle piece = false) :
    piece ∈ solid p.cut.body := by
  refine List.mem_filter.2 ⟨?_, by simp [kept]⟩
  by_cases written : p.bytes = []
  · simp only [written, Text.pieces, List.mem_singleton] at member
    simp [member, isIdle] at kept
  · obtain ⟨first, more, pieces_eq⟩ := List.exists_cons_of_ne_nil (Text.pieces_ne_nil slash p.bytes)
    rw [pieces_eq] at member
    rw [cut_of_pieces pieces_eq written]
    rcases List.mem_cons.1 member with rfl | later
    · simp [headOf_eq_none_iff.2 kept]
    · cases headOf first with
      | none => exact List.mem_cons_of_mem first later
      | some _ => exact later

-- Only a piece that is no text is shown as another one.
theorem parts_shown_iff (p : Path) :
    (Path.mk (shown p.bytes)).parts = p.parts ↔ shown p.bytes = p.bytes := by
  constructor
  · intro same
    rw [parts_eq, parts_eq, cut_shown, List.append_cancel_left_eq, solid_shown, List.map_map] at same
    have solid_fixed : ∀ piece ∈ solid p.cut.body, shown piece = piece := by
      intro piece member
      exact partOf_injective (List.map_inj_left.1 same piece member)
    have fixed : ∀ piece ∈ Text.pieces slash p.bytes, shown piece = piece := by
      intro piece member
      cases idle : isIdle piece with
      | true => exact shown_of_idle idle
      | false => exact solid_fixed piece (mem_solid member idle)
    rw [← Text.joined_pieces slash p.bytes, shown_joined, List.map_congr_left fixed, List.map_id']
  · intro same
    rw [same]

end LessonAudit.Path
