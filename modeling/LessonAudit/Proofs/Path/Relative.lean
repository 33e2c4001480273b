import LessonAudit.Proofs.Path.Relocation
set_option autoImplicit false

namespace LessonAudit.Path

variable {base p rest : Path} {name : List UInt8}

theorem parts_join_of_relative (written : base.bytes ≠ [])
    (relative : (Path.mk name).isAbsolute = false) :
    (base.join name).parts =
      base.parts ++ (solid (Text.pieces slash name)).map partOf := by
  obtain ⟨body, cut_eq, base_eq⟩ := cut_join_of_relative written relative
  simp [parts_eq, cut_eq, solid_eq base_eq]

def inner (name : List UInt8) : List (List UInt8) :=
  dropParts 0 (trimEnd (Text.pieces slash name))

theorem below?_join_of_relative (written : base.bytes ≠ [])
    (relative : (Path.mk name).isAbsolute = false) :
    (base.join name).below? base = some ⟨Text.joined slash (inner name)⟩ := by
  obtain ⟨body, cut_eq, base_eq⟩ := cut_join_of_relative written relative
  exact below?_of_cut (parts_ne_nil written) cut_eq (solid_eq base_eq)

theorem first_ne_nil {first : List UInt8} {more : List (List UInt8)} (written : name ≠ [])
    (relative : (Path.mk name).isAbsolute = false)
    (pieces_eq : Text.pieces slash name = first :: more) : first ≠ [] := by
  cases start : name with
  | nil => exact absurd start written
  | cons c chars =>
      have other : c ≠ slash := by simpa [isAbsolute, start] using relative
      obtain ⟨piece, rest, -, longer⟩ := Text.pieces_cons other chars
      rw [start, longer] at pieces_eq
      rw [← (List.cons.inj pieces_eq).1]
      exact List.cons_ne_nil c piece

theorem trimmed_of_here (body : List (List UInt8)) :
    Cut.trimmed ⟨some .here, body⟩ = Text.joined slash ([dot] :: trimEnd body) := by
  cases trimmed : trimEnd body with
  | nil => simp [Cut.trimmed, trimmed, Text.joined]
  | cons next rest => simp [Cut.trimmed, trimmed, Text.joined]

theorem below?_join_of_empty (empty : base.bytes = [])
    (relative : (Path.mk name).isAbsolute = false) :
    ∃ pieces, (base.join name).below? base = some ⟨Text.joined slash pieces⟩ ∧
      dropParts 0 pieces = inner name := by
  have no_parts : base.parts = [] := by simp [parts_eq, cut, empty, Text.pieces, solid]
  have below : (base.join name).below? base =
      some ⟨(Path.mk name).cut.trimmed⟩ := by
    simp [below?, startsWith, no_parts, join_of_empty relative empty]
  rw [below]
  by_cases written : name = []
  · refine ⟨[], ?_, ?_⟩
    · simp [cut, written, Text.pieces, Cut.trimmed, trimEnd, Text.joined]
    · simp [inner, written, Text.pieces, trimEnd, dropParts, isIdle]
  · cases pieces_eq : Text.pieces slash name with
    | nil => exact absurd pieces_eq (Text.pieces_ne_nil slash _)
    | cons first more =>
        rw [cut_of_pieces pieces_eq written]
        by_cases here : first = [dot]
        · subst here
          refine ⟨[dot] :: trimEnd more, ?_, ?_⟩
          · simp [headOf, trimmed_of_here]
          · have dropped := dropParts_trimEnd [[dot]] more
            simpa [inner, pieces_eq, dropParts, isIdle, solid] using dropped.symm
        · have named := first_ne_nil written relative pieces_eq
          refine ⟨trimEnd (first :: more), ?_, by rw [inner, pieces_eq]⟩
          simp [headOf, named, here, Cut.trimmed]

variable {body : List (List UInt8)} {piece : List UInt8}

theorem not_mem_body (member : piece ∈ p.cut.body) : slash ∉ piece := by
  by_cases written : p.bytes = []
  · simp [cut, written, Text.pieces] at member
  · cases pieces_eq : Text.pieces slash p.bytes with
    | nil => exact absurd pieces_eq (Text.pieces_ne_nil slash _)
    | cons first more =>
        rw [cut_of_pieces pieces_eq written] at member
        refine Text.not_mem_of_mem_pieces slash p.bytes piece ?_
        rw [pieces_eq]
        simp only at member
        split at member
        · exact List.mem_cons_of_mem first member
        · exact member

theorem trimEnd_begins (body : List (List UInt8)) : trimEnd body <+: body := by
  have shorter := List.reverse_prefix.2 (List.dropWhile_suffix isIdle (l := body.reverse))
  rwa [List.reverse_reverse] at shorter

theorem dropParts_subset {n : Nat} (member : piece ∈ dropParts n body) : piece ∈ body := by
  induction body generalizing n with
  | nil => exact member
  | cons first more ih =>
      cases idle : isIdle first with
      | true => exact List.mem_cons_of_mem first (ih (by simpa [dropParts, idle] using member))
      | false =>
          cases n with
          | zero => simpa [dropParts, idle] using member
          | succ n => exact List.mem_cons_of_mem first (ih (by simpa [dropParts, idle] using member))

theorem solid_dropParts (n : Nat) (body : List (List UInt8)) :
    solid (dropParts n body) = (solid body).drop n := by
  induction body generalizing n with
  | nil => simp [solid, dropParts]
  | cons first more ih =>
      cases idle : isIdle first with
      | true => simpa [solid, dropParts, idle] using ih n
      | false =>
          cases n with
          | zero => simp [dropParts, idle]
          | succ n => simpa [solid, dropParts, idle] using ih n

theorem first_dropParts {n : Nat} {first : List UInt8} {more : List (List UInt8)}
    (starts : dropParts n body = first :: more) : isIdle first = false := by
  induction body generalizing n with
  | nil => simp [dropParts] at starts
  | cons next rest ih =>
      cases idle : isIdle next with
      | true => exact ih (by simpa [dropParts, idle] using starts)
      | false =>
          cases n with
          | zero =>
              simp only [dropParts, idle, Bool.false_eq_true, if_false, List.cons.injEq] at starts
              rwa [← starts.1]
          | succ n => exact ih (by simpa [dropParts, idle] using starts)

theorem parts_joined (whole : ∀ piece ∈ body, slash ∉ piece)
    (named : ∀ first more, body = first :: more → isIdle first = false) :
    (Path.mk (Text.joined slash body)).parts = (solid body).map partOf := by
  cases body with
  | nil => simp [Text.joined, parts_eq, cut, Text.pieces, solid]
  | cons first more =>
      have kept := named first more rfl
      have pieces_eq : Text.pieces slash (Text.joined slash (first :: more)) = first :: more :=
        Text.pieces_joined whole
      have written : Text.joined slash (first :: more) ≠ [] := by
        intro empty
        rw [empty] at pieces_eq
        simp only [Text.pieces, List.cons.injEq] at pieces_eq
        simp [← pieces_eq.1, isIdle] at kept
      rw [parts_eq, cut_of_pieces (by simpa using pieces_eq) (by simpa using written)]
      simp [headOf_eq_none_iff.2 kept]

theorem solid_pieces_joined (whole : ∀ piece ∈ body, slash ∉ piece) :
    solid (Text.pieces slash (Text.joined slash body)) = solid body := by
  cases body with
  | nil => rfl
  | cons first more => rw [Text.pieces_joined whole]

section

variable {first : List UInt8} {more : List (List UInt8)}

theorem parts_trimmed_of_root (whole : ∀ piece ∈ body, slash ∉ piece) :
    (Path.mk (Cut.trimmed ⟨some .root, body⟩)).parts =
      .root :: (solid body).map partOf := by
  have free (piece : List UInt8) (member : piece ∈ trimEnd body) : slash ∉ piece :=
    whole piece ((trimEnd_begins body).subset member)
  have trimmed : Cut.trimmed ⟨some .root, body⟩ = slash :: Text.joined slash (trimEnd body) := rfl
  rw [trimmed, parts_eq, cut_of_slash rfl, solid_pieces_joined free,
    solid_trimEnd]
  rfl

theorem parts_trimmed_of_here (whole : ∀ piece ∈ body, slash ∉ piece) :
    (Path.mk (Cut.trimmed ⟨some .here, body⟩)).parts =
      .here :: (solid body).map partOf := by
  have free (piece : List UInt8) (member : piece ∈ [dot] :: trimEnd body) : slash ∉ piece := by
    rcases List.mem_cons.1 member with rfl | later
    · decide
    · exact whole piece ((trimEnd_begins body).subset later)
  have pieces_eq : Text.pieces slash (Text.joined slash ([dot] :: trimEnd body)) =
      [dot] :: trimEnd body := Text.pieces_joined free
  have written : Text.joined slash ([dot] :: trimEnd body) ≠ [] := by
    intro empty
    simp [empty, Text.pieces] at pieces_eq
  rw [trimmed_of_here, parts_eq, cut_of_pieces (by simpa using pieces_eq) (by simpa using written)]
  simp [headOf, solid_trimEnd]

theorem parts_trimmed_of_name (whole : ∀ piece ∈ first :: more, slash ∉ piece)
    (named : isIdle first = false) :
    (Path.mk (Cut.trimmed ⟨none, first :: more⟩)).parts =
      (solid (first :: more)).map partOf := by
  have trimmed : Cut.trimmed ⟨none, first :: more⟩ =
      Text.joined slash (trimEnd (first :: more)) := rfl
  rw [trimmed, parts_joined (fun piece member => whole piece ((trimEnd_begins _).subset member)),
    solid_trimEnd]
  intro next rest kept
  obtain ⟨behind, same⟩ := trimEnd_begins (first :: more)
  rw [kept, List.cons_append, List.cons.injEq] at same
  rwa [same.1]

end

theorem parts_trimmed (p : Path) : (Path.mk p.cut.trimmed).parts = p.parts := by
  by_cases written : p.bytes = []
  · simp [parts_eq, cut, written, Text.pieces, Cut.trimmed, trimEnd, Text.joined]
  · cases pieces_eq : Text.pieces slash p.bytes with
    | nil => exact absurd pieces_eq (Text.pieces_ne_nil slash _)
    | cons first more =>
        have whole (piece : List UInt8) (member : piece ∈ first :: more) : slash ∉ piece :=
          Text.not_mem_of_mem_pieces slash _ piece (pieces_eq ▸ member)
        have whole_more (piece : List UInt8) (member : piece ∈ more) : slash ∉ piece :=
          whole piece (List.mem_cons_of_mem first member)
        rw [parts_eq (p := p), cut_of_pieces pieces_eq written]
        by_cases rooted : first = []
        · subst rooted
          exact parts_trimmed_of_root whole_more
        · by_cases here : first = [dot]
          · subst here
            exact parts_trimmed_of_here whole_more
          · have headless : headOf first = none := by simp [headOf, rooted, here]
            rw [headless]
            exact parts_trimmed_of_name whole (headOf_eq_none_iff.1 headless)

theorem below?_eq_none_iff : p.below? base = none ↔ ¬ base.parts <+: p.parts := by
  rw [← startsWith_iff]
  unfold below?
  cases p.startsWith base with
  | true => cases base.parts.length <;> simp
  | false => simp

theorem parts_of_below? (found : p.below? base = some rest) : p.parts = base.parts ++ rest.parts := by
  have begins : base.parts <+: p.parts := by
    by_contra apart
    rw [below?_eq_none_iff.2 apart] at found
    cases found
  have more_eq : p.parts = base.parts ++ p.parts.drop base.parts.length := by
    rw [List.prefix_iff_eq_append] at begins
    exact begins.symm
  have free (n : Nat) (piece : List UInt8) (member : piece ∈ dropParts n (trimEnd p.cut.body)) :
      slash ∉ piece := not_mem_body ((trimEnd_begins _).subset (dropParts_subset member))
  have named (n : Nat) (first : List UInt8) (more : List (List UInt8))
      (starts : dropParts n (trimEnd p.cut.body) = first :: more) : isIdle first = false :=
    first_dropParts starts
  rw [below?, if_pos (startsWith_iff.2 begins)] at found
  cases count : base.parts.length with
  | zero =>
      rw [count] at found
      obtain rfl := Option.some.inj found
      rw [parts_trimmed, List.length_eq_zero_iff.1 count, List.nil_append]
  | succ n =>
      rw [count] at found more_eq
      obtain rfl := Option.some.inj found
      rw [parts_joined (free _) (named _), solid_dropParts, solid_trimEnd, List.map_drop]
      rw [more_eq, parts_eq (p := p)]
      -- a first part that is the root or `.` is no piece
      cases p.cut.head <;> simp

end LessonAudit.Path
