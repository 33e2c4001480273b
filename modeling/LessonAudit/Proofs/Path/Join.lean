import LessonAudit.Path
import LessonAudit.Proofs.Text.Pieces
set_option autoImplicit false

namespace LessonAudit.Path

structure Plain (name : List UInt8) : Prop where
  whole : slash ∉ name
  solid : isIdle name = false

def solid (body : List (List UInt8)) : List (List UInt8) :=
  body.filter fun piece => !isIdle piece

@[simp] theorem solid_append (left right : List (List UInt8)) :
    solid (left ++ right) = solid left ++ solid right :=
  List.filter_append ..

def headOf (piece : List UInt8) : Option Part :=
  if piece = [] then some .root
  else if piece = [dot] then some .here
  else none

theorem partOf_injective {left right : List UInt8} (same : partOf left = partOf right) :
    left = right := by
  unfold partOf at same
  split at same <;> split at same <;> simp_all

theorem parts_eq (p : Path) : p.parts = p.cut.head.toList ++ (solid p.cut.body).map partOf := rfl

theorem cut_of_pieces {p : Path} {first : List UInt8} {more : List (List UInt8)}
    (pieces_eq : Text.pieces slash p.bytes = first :: more) (written : p.bytes ≠ []) :
    p.cut = ⟨headOf first, if (headOf first).isSome then more else first :: more⟩ := by
  have joined_eq := Text.joined_pieces slash p.bytes
  rw [pieces_eq] at joined_eq
  unfold cut headOf
  rw [pieces_eq]
  by_cases rooted : first = []
  · subst rooted
    cases more with
    | nil => exact absurd joined_eq.symm written
    | cons next more => simp
  · by_cases here : first = [dot]
    · simp [here]
    · cases first with
      | nil => exact absurd rfl rooted
      | cons c rest => simp [here]

theorem headOf_eq_none_iff {piece : List UInt8} : headOf piece = none ↔ isIdle piece = false := by
  by_cases rooted : piece = [] <;> by_cases here : piece = [dot] <;>
    simp [headOf, isIdle, rooted, here]

theorem solid_first {p : Path} (headless : p.cut.head = none) :
    p.cut.body = [] ∨ ∃ first more, p.cut.body = first :: more ∧ isIdle first = false := by
  by_cases written : p.bytes = []
  · left
    simp [cut, written, Text.pieces]
  · cases pieces_eq : Text.pieces slash p.bytes with
    | nil => exact absurd pieces_eq (Text.pieces_ne_nil slash _)
    | cons first more =>
        rw [cut_of_pieces pieces_eq written] at headless ⊢
        dsimp only at headless ⊢
        right
        exact ⟨first, more, by simp [headless], headOf_eq_none_iff.1 headless⟩

section

variable {name : List UInt8}

theorem Plain.relative (plain : Plain name) : (Path.mk name).isAbsolute = false := by
  cases name with
  | nil => rfl
  | cons c rest =>
      have other : c ≠ slash := by
        rintro rfl
        exact plain.whole (by simp)
      simp [isAbsolute, other]

theorem join_of_empty {base : Path} (relative : (Path.mk name).isAbsolute = false)
    (empty : base.bytes = []) : base.join name = ⟨name⟩ := by
  simp [join, relative, empty]

theorem exists_front {base : Path} (written : base.bytes ≠ []) :
    ∃ front, (base.bytes = front ∨ base.bytes = front ++ [slash]) ∧
      ∀ name, (Path.mk name).isAbsolute = false →
        (base.join name).bytes = front ++ slash :: name := by
  cases last : base.bytes.getLast? with
  | none => exact absurd (List.getLast?_eq_none_iff.1 last) written
  | some c =>
      by_cases slashed : c = slash
      · subst slashed
        obtain ⟨front, bytes_eq⟩ := List.getLast?_eq_some_iff.1 last
        exact ⟨front, .inr bytes_eq, fun name relative => by simp [join, relative, bytes_eq]⟩
      · exact ⟨base.bytes, .inl rfl, fun name relative => by simp [join, relative, last, slashed, written]⟩

theorem cut_of_slash {p : Path} {rest : List UInt8} (bytes_eq : p.bytes = slash :: rest) :
    p.cut = ⟨some .root, Text.pieces slash rest⟩ := by
  have pieces_eq : Text.pieces slash p.bytes = [] :: Text.pieces slash rest := by
    simp [bytes_eq, Text.pieces]
  rw [cut_of_pieces pieces_eq (by simp [bytes_eq])]
  rfl

theorem cut_append {p root : Path} {rest : List UInt8} (written : root.bytes ≠ [])
    (bytes_eq : p.bytes = root.bytes ++ slash :: rest) :
    p.cut = ⟨root.cut.head, root.cut.body ++ Text.pieces slash rest⟩ := by
  cases pieces_eq : Text.pieces slash root.bytes with
  | nil => exact absurd pieces_eq (Text.pieces_ne_nil slash _)
  | cons first more =>
      have whole_eq : Text.pieces slash p.bytes = first :: (more ++ Text.pieces slash rest) := by
        rw [bytes_eq, Text.pieces_append, pieces_eq, List.cons_append]
      rw [cut_of_pieces whole_eq (by simp [bytes_eq]), cut_of_pieces pieces_eq written]
      cases (headOf first).isSome <;> rfl

theorem cut_join_of_relative {base : Path} (written : base.bytes ≠ [])
    (relative : (Path.mk name).isAbsolute = false) :
    ∃ body, (base.join name).cut = ⟨base.cut.head, body ++ Text.pieces slash name⟩ ∧
      (base.cut.body = body ∨ base.cut.body = body ++ [[]]) := by
  obtain ⟨front, base_eq, joined⟩ := exists_front written
  have join_eq := joined name relative
  rcases base_eq with rfl | base_eq
  · exact ⟨base.cut.body, cut_append written join_eq, .inl rfl⟩
  · by_cases rooted : front = []
    · subst rooted
      rw [cut_of_slash join_eq, cut_of_slash base_eq]
      exact ⟨[], rfl, .inr rfl⟩
    · have front_some : (Path.mk front).bytes ≠ [] := rooted
      rw [cut_append front_some join_eq, cut_append front_some base_eq]
      exact ⟨_, rfl, .inr rfl⟩

theorem cut_join (base : Path) (plain : Plain name) :
    ∃ body, (base.join name).cut = ⟨base.cut.head, body ++ [name]⟩ ∧
      (base.cut.body = body ∨ base.cut.body = body ++ [[]]) := by
  have name_eq : Text.pieces slash name = [name] := Text.pieces_of_not_mem plain.whole
  by_cases written : base.bytes = []
  · refine ⟨[], ?_, .inl ?_⟩
    · have name_some : name ≠ [] := by
        intro empty
        have solid := plain.solid
        simp [empty, isIdle] at solid
      rw [join_of_empty plain.relative written, cut_of_pieces name_eq name_some,
        headOf_eq_none_iff.2 plain.solid]
      simp [cut, written, Text.pieces]
    · simp [cut, written, Text.pieces]
  · obtain ⟨body, cut_eq, base_eq⟩ := cut_join_of_relative written plain.relative
    exact ⟨body, name_eq ▸ cut_eq, base_eq⟩

theorem solid_eq {body front : List (List UInt8)} (same : front = body ∨ front = body ++ [[]]) :
    solid front = solid body := by
  rcases same with rfl | rfl
  · rfl
  · rw [solid_append]
    exact List.append_nil _

theorem parts_join (base : Path) (plain : Plain name) :
    (base.join name).parts = base.parts ++ [partOf name] := by
  obtain ⟨body, cut_eq, base_eq⟩ := cut_join base plain
  have kept := solid_eq base_eq
  have last : solid [name] = [name] := by simp [solid, plain.solid]
  simp [parts_eq, cut_eq, kept, last]

theorem startsWith_iff {p base : Path} : p.startsWith base = true ↔ base.parts <+: p.parts := by
  rw [startsWith, List.isPrefixOf_iff_prefix]

end

theorem dropParts_append (front back : List (List UInt8)) :
    dropParts (solid front).length (front ++ back) = dropParts 0 back := by
  induction front with
  | nil => rfl
  | cons piece more ih =>
      cases idle : isIdle piece with
      | true => simpa [solid, dropParts, idle] using ih
      | false => simpa [solid, dropParts, idle] using ih

theorem dropParts_zero {more : List (List UInt8)} (kept : ∀ piece ∈ more, isIdle piece = false) :
    dropParts 0 more = more := by
  cases more with
  | nil => rfl
  | cons piece more => simp [dropParts, kept piece (by simp)]

theorem trimEnd_append {front more : List (List UInt8)} (some_piece : more ≠ [])
    (kept : ∀ piece ∈ more, isIdle piece = false) : trimEnd (front ++ more) = front ++ more := by
  cases back : more.reverse with
  | nil => exact absurd (List.reverse_eq_nil_iff.1 back) some_piece
  | cons last init =>
      have more_eq : more = init.reverse ++ [last] := by
        rw [← List.reverse_reverse more, back, List.reverse_cons]
      have last_kept := kept last (by simp [more_eq])
      simp [trimEnd, last_kept, more_eq]

theorem body_eq_nil {p : Path} {body more : List (List UInt8)} (headless : p.cut.head = none)
    (cut_eq : p.cut.body = body ++ more) (none_solid : solid body = []) : body = [] := by
  cases body with
  | nil => rfl
  | cons piece rest =>
      rcases solid_first headless with empty | ⟨first, later, first_eq, kept⟩
      · simp [empty] at cut_eq
      · rw [first_eq] at cut_eq
        simp only [List.cons_append, List.cons.injEq] at cut_eq
        simp [solid, ← cut_eq.1, kept] at none_solid

theorem below?_eq_joined {p base : Path} {body more : List (List UInt8)}
    (cut_eq : p.cut = ⟨base.cut.head, body ++ more⟩) (same : solid base.cut.body = solid body)
    (some_piece : more ≠ []) (kept : ∀ piece ∈ more, isIdle piece = false) :
    p.below? base = some ⟨Text.joined slash more⟩ := by
  have below : p.startsWith base = true := by
    rw [startsWith_iff, parts_eq, parts_eq, cut_eq, same]
    simp
  have trimmed (front : List (List UInt8)) : trimEnd (front ++ more) = front ++ more :=
    trimEnd_append some_piece kept
  have length_eq : base.parts.length = base.cut.head.toList.length + (solid body).length := by
    rw [parts_eq, same]
    simp
  have dropped : dropParts (solid body).length (body ++ more) = more := by
    rw [dropParts_append, dropParts_zero kept]
  unfold below?
  rw [if_pos below, length_eq]
  -- a first part that is the root or `.` counts as a part and is no piece of the body
  cases head_eq : base.cut.head with
  | some head => simp [cut_eq, head_eq, trimmed, Nat.add_comm 1, dropped]
  | none =>
      cases count : (solid body).length with
      | succ n => simp [cut_eq, head_eq, trimmed, ← count, dropped]
      | zero =>
          -- a folder without parts has no text, so that all pieces are of what lies in it
          have body_nil : body = [] :=
            body_eq_nil (by rw [cut_eq, head_eq]) (by rw [cut_eq]) (List.length_eq_zero_iff.1 count)
          subst body_nil
          have whole : trimEnd more = more := trimmed []
          simp [cut_eq, head_eq, Cut.trimmed, whole]

theorem below?_join (base : Path) {name : List UInt8} (plain : Plain name) :
    (base.join name).below? base = some ⟨name⟩ := by
  obtain ⟨body, cut_eq, base_eq⟩ := cut_join base plain
  rw [below?_eq_joined cut_eq (solid_eq base_eq) (by simp) (by simpa using plain.solid)]
  simp [Text.joined]

theorem below?_join_join (base : Path) {folder name : List UInt8} (folder_plain : Plain folder)
    (plain : Plain name) :
    ((base.join folder).join name).below? base = some ⟨folder ++ slash :: name⟩ := by
  obtain ⟨body, folder_eq, base_eq⟩ := cut_join base folder_plain
  obtain ⟨inner, cut_eq, inner_eq⟩ := cut_join (base.join folder) plain
  have folder_some : folder ≠ [] := by
    intro empty
    have kept := folder_plain.solid
    simp [empty, isIdle] at kept
  have inner_eq : inner = body ++ [folder] := by
    rcases inner_eq with same | emptied
    · rw [← same, folder_eq]
    · rw [folder_eq] at emptied
      exact absurd (List.append_inj_right' emptied rfl) (by simpa using folder_some)
  have whole_eq : ((base.join folder).join name).cut =
      ⟨base.cut.head, body ++ [folder, name]⟩ := by
    rw [cut_eq, folder_eq, inner_eq]
    simp
  have kept : ∀ piece ∈ [folder, name], isIdle piece = false := by
    simp [folder_plain.solid, plain.solid]
  rw [below?_eq_joined whole_eq (solid_eq base_eq) (by simp) kept]
  rfl

end LessonAudit.Path
