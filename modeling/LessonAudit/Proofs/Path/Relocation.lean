import LessonAudit.Policy
import LessonAudit.Proofs.Path.Join
import LessonAudit.Proofs.Path.Order
import LessonAudit.Proofs.Path.Text
set_option autoImplicit false

namespace LessonAudit

namespace Path

/-- Below `root` and below `base` the paths have the same parts and the same text. -/
structure LieAlike (root base p q : Path) : Prop where
  parts : ∃ rest, p.parts = root.parts ++ rest ∧ q.parts = base.parts ++ rest
  below : ∃ rest, p.below? root = some rest ∧ q.below? base = some rest

variable {root base p q p' q' : Path} {folder name : List UInt8}

theorem lieAlike_join (root base : Path) (plain : Plain name) :
    LieAlike root base (root.join name) (base.join name) where
  parts := ⟨_, parts_join root plain, parts_join base plain⟩
  below := ⟨_, below?_join root plain, below?_join base plain⟩

theorem parts_join_join (base : Path) (folder_plain : Plain folder) (plain : Plain name) :
    ((base.join folder).join name).parts = base.parts ++ [partOf folder, partOf name] := by
  simp [parts_join _ plain, parts_join _ folder_plain]

theorem lieAlike_join_join (root base : Path) (folder_plain : Plain folder) (plain : Plain name) :
    LieAlike root base ((root.join folder).join name) ((base.join folder).join name) where
  parts := ⟨_, parts_join_join root folder_plain plain, parts_join_join base folder_plain plain⟩
  below := ⟨_, below?_join_join root folder_plain plain, below?_join_join base folder_plain plain⟩

theorem lex_append_iff {front left right : List Part} :
    List.Lex Part.Precedes (front ++ left) (front ++ right) ↔ List.Lex Part.Precedes left right := by
  induction front with
  | nil => rfl
  | cons part front ih => rw [List.cons_append, List.cons_append, List.lex_cons_iff, ih]

theorem LieAlike.precedes_iff (first : LieAlike root base p q) (second : LieAlike root base p' q') :
    p.Precedes p' ↔ q.Precedes q' := by
  obtain ⟨rest, p_eq, q_eq⟩ := first.parts
  obtain ⟨rest', p_eq', q_eq'⟩ := second.parts
  rw [Precedes, Precedes, p_eq, p_eq', q_eq, q_eq', lex_append_iff, lex_append_iff]

theorem LieAlike.same_eq (first : LieAlike root base p q) (second : LieAlike root base p' q') :
    p.same p' = q.same q' := by
  obtain ⟨rest, p_eq, q_eq⟩ := first.parts
  obtain ⟨rest', p_eq', q_eq'⟩ := second.parts
  rw [Bool.eq_iff_iff, same_iff, same_iff, p_eq, p_eq', q_eq, q_eq', List.append_cancel_left_eq,
    List.append_cancel_left_eq]

theorem LieAlike.startsWith_eq (alike : LieAlike root base p q) (plain : Plain name) :
    p.startsWith (root.join name) = q.startsWith (base.join name) := by
  obtain ⟨rest, p_eq, q_eq⟩ := alike.parts
  rw [Bool.eq_iff_iff, startsWith_iff, startsWith_iff, parts_join root plain, parts_join base plain,
    p_eq, q_eq, List.prefix_append_right_inj, List.prefix_append_right_inj]

theorem exists_before (base : Path) :
    ∃ before, Text.Whole slash before ∧
      ∀ name, (Path.mk name).isAbsolute = false →
        (base.join name).bytes = before ++ name := by
  by_cases written : base.bytes = []
  · exact ⟨[], .inl rfl, fun name relative => by rw [join_of_empty relative written]; rfl⟩
  · obtain ⟨front, -, joined⟩ := exists_front written
    exact ⟨front ++ [slash], .inr (by simp), fun name relative => by simp [joined name relative]⟩

theorem slashed_join (base : Path) (relative : (Path.mk name).isAbsolute = false) :
    ∃ above, Text.Whole '/' above ∧ (base.join name).slashed = above ++ (Path.mk name).slashed := by
  obtain ⟨before, whole, bytes_eq⟩ := exists_before base
  have path_eq : base.join name = ⟨before ++ name⟩ := congrArg Path.mk (bytes_eq name relative)
  rw [path_eq]
  rcases whole with rfl | ends
  · exact ⟨[], .inl rfl, rfl⟩
  · obtain ⟨front, rfl⟩ := List.getLast?_eq_some_iff.1 ends
    refine ⟨(Path.mk front).slashed ++ ['/'], .inr (by simp), ?_⟩
    rw [List.append_assoc, List.singleton_append, slashed_append, List.append_assoc,
      List.singleton_append]

theorem Plain.ne_nil (plain : Plain name) : name ≠ [] := by
  intro empty
  have solid := plain.solid
  simp [empty, isIdle] at solid

theorem Plain.relative_append (plain : Plain folder) (name : List UInt8) :
    (Path.mk (folder ++ slash :: name)).isAbsolute = false := by
  have relative := plain.relative
  cases start : folder with
  | nil => exact absurd start plain.ne_nil
  | cons c rest => simpa [isAbsolute, start] using relative

theorem join_join (base : Path) (folder_plain : Plain folder) (plain : Plain name) :
    (base.join folder).join name = base.join (folder ++ slash :: name) := by
  obtain ⟨before, -, bytes_eq⟩ := exists_before base
  -- the folder's path does not end with a slash
  have last_ne : (base.join folder).bytes.getLast? ≠ some slash := by
    rw [bytes_eq folder folder_plain.relative, List.getLast?_append_of_ne_nil _ folder_plain.ne_nil]
    exact fun last => folder_plain.whole (List.mem_of_getLast? last)
  have some_byte : (base.join folder).bytes ≠ [] := by
    simp [bytes_eq folder folder_plain.relative, folder_plain.ne_nil]
  have inner_eq : (base.join folder).join name = ⟨(base.join folder).bytes ++ slash :: name⟩ := by
    rw [join, plain.relative]
    simp [last_ne, some_byte]
  have whole_eq := bytes_eq _ (folder_plain.relative_append name)
  calc (base.join folder).join name = ⟨(base.join folder).bytes ++ slash :: name⟩ := inner_eq
    _ = ⟨(base.join (folder ++ slash :: name)).bytes⟩ := by
      rw [whole_eq, bytes_eq folder folder_plain.relative, List.append_assoc]

theorem parts_ne_nil (written : p.bytes ≠ []) : p.parts ≠ [] := by
  cases pieces_eq : Text.pieces slash p.bytes with
  | nil => exact absurd pieces_eq (Text.pieces_ne_nil slash _)
  | cons first more =>
      rw [parts_eq, cut_of_pieces pieces_eq written]
      cases head : headOf first with
      | some part => simp
      | none => simp [solid, headOf_eq_none_iff.1 head]

theorem parts_append {rest : List UInt8} (written : root.bytes ≠ [])
    (bytes_eq : p.bytes = root.bytes ++ slash :: rest) :
    p.parts = root.parts ++ (solid (Text.pieces slash rest)).map partOf := by
  rw [parts_eq, cut_append written bytes_eq, parts_eq]
  simp

theorem solid_trimEnd (body : List (List UInt8)) : solid (trimEnd body) = solid body := by
  have dropped (pieces : List (List UInt8)) : solid (pieces.dropWhile isIdle) = solid pieces := by
    induction pieces with
    | nil => rfl
    | cons piece more ih =>
        cases idle : isIdle piece with
        | true => simpa [solid, idle] using ih
        | false => simp [idle]
  simp only [trimEnd, solid, List.filter_reverse] at dropped ⊢
  rw [dropped, ← List.filter_reverse, List.reverse_reverse]

theorem dropParts_trimEnd (front back : List (List UInt8)) :
    dropParts (solid front).length (trimEnd (front ++ back)) = dropParts 0 (trimEnd back) := by
  have split_eq : trimEnd (front ++ back) =
      if trimEnd back = [] then trimEnd front else front ++ trimEnd back := by
    simp only [trimEnd, List.reverse_append, List.dropWhile_append, List.isEmpty_iff,
      List.reverse_eq_nil_iff]
    split <;> simp
  rw [split_eq]
  split
  · next idle =>
      rw [idle, ← solid_trimEnd]
      simpa using dropParts_append (trimEnd front) []
  · exact dropParts_append front (trimEnd back)

theorem below?_of_cut {body more : List (List UInt8)} (some_part : root.parts ≠ [])
    (cut_eq : p.cut = ⟨root.cut.head, body ++ more⟩) (same : solid root.cut.body = solid body) :
    p.below? root = some ⟨Text.joined slash (dropParts 0 (trimEnd more))⟩ := by
  have below : p.startsWith root = true := by
    rw [startsWith_iff, parts_eq, parts_eq, cut_eq, same]
    simp
  have length_eq : root.parts.length = root.cut.head.toList.length + (solid body).length := by
    rw [parts_eq, same]
    simp
  have dropped := dropParts_trimEnd body more
  have positive : 0 < root.parts.length := List.length_pos_iff.2 some_part
  unfold below?
  rw [if_pos below]
  cases count : root.parts.length with
  | zero => omega
  | succ n =>
      cases head_eq : root.cut.head with
      | some head =>
          have n_eq : n = (solid body).length := by
            simp only [head_eq, Option.toList_some, List.length_singleton] at length_eq
            omega
          simp [cut_eq, head_eq, n_eq, dropped]
      | none =>
          have n_eq : n + 1 = (solid body).length := by
            simp only [head_eq, Option.toList_none, List.length_nil] at length_eq
            omega
          simp [cut_eq, head_eq, n_eq, dropped]

end Path

namespace Requirement

def Rooted (r : Requirement) : Prop :=
  ∃ rest, r.template.toList = '%' :: '/' :: rest ∧ '%' ∉ rest

variable {r : Requirement} {root base : Path}

theorem flatMap_of_rootless {text rest : List Char} (rootless : '%' ∉ rest) :
    rest.flatMap (fun c => if c = '%' then text else [c]) = rest := by
  induction rest with
  | nil => rfl
  | cons c rest ih =>
      simp only [List.mem_cons, not_or] at rootless
      simp [Ne.symm rootless.1, ih rootless.2]

theorem bytes_resolve {rest : List Char} (template_eq : r.template.toList = '%' :: '/' :: rest)
    (rootless : '%' ∉ rest) (root : Path) :
    (r.resolve root).bytes =
      Text.Utf8.encode root.text ++ Path.slash :: Text.Utf8.encode (String.ofList rest) := by
  have slash_eq : Text.Utf8.encodeChar '/' = [Path.slash] := by decide
  simp [resolve, template_eq, flatMap_of_rootless rootless, Text.Utf8.encode, slash_eq]

theorem lieAlike_resolve (rooted : r.Rooted) (written : root.bytes ≠ []) (written' : base.bytes ≠ [])
    (is_text : root.isText = true) (is_text' : base.isText = true) :
    Path.LieAlike root base (r.resolve root) (r.resolve base) := by
  obtain ⟨rest, template_eq, rootless⟩ := rooted
  have root_eq := bytes_resolve template_eq rootless root
  have base_eq := bytes_resolve template_eq rootless base
  rw [Path.encode_text is_text] at root_eq
  rw [Path.encode_text is_text'] at base_eq
  exact {
    parts := ⟨_, Path.parts_append written root_eq, Path.parts_append written' base_eq⟩
    below := ⟨_, Path.below?_of_cut (Path.parts_ne_nil written) (Path.cut_append written root_eq) rfl,
      Path.below?_of_cut (Path.parts_ne_nil written') (Path.cut_append written' base_eq) rfl⟩ }

end Requirement
end LessonAudit
