import LessonAudit.Proofs.Path.Relative
import LessonAudit.Proofs.Role
set_option autoImplicit false

namespace LessonAudit.Role

open Text.Utf8 (lossy)

def seen (root path : Path) : List Char :=
  ((path.below? root).getD path).slashed

def Reserved (text : List Char) : Prop :=
  ∃ name ∈ reserved, Named text name

/-- The rule by which texts have roles. -/
def Ruled (text : List Char) : Option Role → Prop
  | none => ¬ ".md".toList <:+ text
  | some .nonTemplated =>
      ".md".toList <:+ text ∧
        (Named text "CONTRIBUTING.md".toList ∨ Named text "README.md".toList)
  | some .index => ".md".toList <:+ text ∧ Named text "index.md".toList
  | some .reference => ".md".toList <:+ text ∧ Named text "reference.md".toList
  | some .episode => ".md".toList <:+ text ∧ ¬ Reserved text ∧ BelowEpisodes text
  | some .generic => ".md".toList <:+ text ∧ ¬ Reserved text ∧ ¬ BelowEpisodes text

variable {text name : List Char}

theorem mem_reserved :
    name ∈ reserved ↔ name = "CONTRIBUTING.md".toList ∨ name = "README.md".toList ∨
      name = "index.md".toList ∨ name = "reference.md".toList := by
  simp only [reserved, List.map_cons, List.map_nil, List.mem_cons, List.not_mem_nil, or_false]

theorem reserved_iff : Reserved text ↔ (Text.pieces '/' text).getLast?.getD [] ∈ reserved := by
  simp only [Reserved, named_iff, exists_eq_right']

theorem ruled_ofText? (text : List Char) : Ruled text (ofText? text) := by
  rw [ofText?_eq]
  by_cases extension : ".md".toList <:+ text
  · unfold recognised?
    rw [if_pos (List.isSuffixOf_iff_suffix.2 extension)]
    simp only
    split
    · next either =>
        simp only [Bool.or_eq_true, beq_iff_eq, ← named_iff] at either
        exact ⟨extension, either⟩
    · next neither =>
        split
        · next index => exact ⟨extension, named_iff.2 (beq_iff_eq.1 index)⟩
        · next not_index =>
            split
            · next reference => exact ⟨extension, named_iff.2 (beq_iff_eq.1 reference)⟩
            · next not_reference =>
                simp only [Bool.or_eq_true, beq_iff_eq, not_or] at neither not_index not_reference
                have unreserved : ¬ Reserved text := by
                  rw [reserved_iff, mem_reserved, not_or, not_or, not_or]
                  exact ⟨neither.1, neither.2, not_index, not_reference⟩
                split
                · next below => exact ⟨extension, unreserved, (belowEpisodes_iff extension).2 below⟩
                · next apart =>
                    exact ⟨extension, unreserved, mt (belowEpisodes_iff extension).1 apart⟩
  · unfold recognised?
    rw [if_neg (mt List.isSuffixOf_iff_suffix.1 extension)]
    exact extension

theorem Ruled.extension {role : Role} (ruled : Ruled text (some role)) :
    ".md".toList <:+ text := by
  cases role <;> exact ruled.1

theorem Ruled.unique {role other : Option Role} (first : Ruled text role)
    (second : Ruled text other) : role = other := by
  rcases role with _ | role <;> rcases other with _ | other
  · rfl
  · exact absurd second.extension first
  · exact absurd first.extension second
  · congr 1
    -- different roles ask for different names, or disagree about the episode folder
    cases role <;> cases other <;>
      simp only [Ruled, named_iff, reserved_iff, mem_reserved] at first second <;> grind

theorem ofText?_eq_iff {role : Option Role} : ofText? text = role ↔ Ruled text role := by
  constructor
  · rintro rfl
    exact ruled_ofText? text
  · exact (ruled_ofText? text).unique

theorem ofText?_below {folder rest : List Char} (free : '/' ∉ folder)
    (other : folder ≠ episodeFolder.toList) : ofText? (folder ++ '/' :: rest) = ofText? rest := by
  have text_eq : folder ++ '/' :: rest = (folder ++ ['/']) ++ rest := by simp
  have unmarked : '/' ∉ ".md".toList := by decide
  have extension : ".md".toList.isSuffixOf (folder ++ '/' :: rest) =
      ".md".toList.isSuffixOf rest := by
    rw [Bool.eq_iff_iff, List.isSuffixOf_iff_suffix, List.isSuffixOf_iff_suffix, text_eq]
    exact Text.suffix_append_iff unmarked (.inr (by simp))
  obtain ⟨piece, more, cut⟩ := List.exists_cons_of_ne_nil (Text.pieces_ne_nil '/' rest)
  have last : (folder :: piece :: more).getLast? = (piece :: more).getLast? :=
    List.getLast?_cons_cons
  have under : underEpisodes (folder :: piece :: more) = underEpisodes (piece :: more) := by
    simp [underEpisodes, other]
  rw [ofText?_eq, ofText?_eq, recognised?, recognised?, extension,
    Text.pieces_append, Text.pieces_of_not_mem free, cut, List.singleton_append]
  simp only [last, under]

theorem slashed_joined_cons {piece : List UInt8} (plain : piece = [] ∨ piece = [Path.dot])
    (next : List UInt8) (rest : List (List UInt8)) :
    (Path.mk (Text.joined Path.slash (piece :: next :: rest))).slashed =
      lossy piece ++ '/' :: (Path.mk (Text.joined Path.slash (next :: rest))).slashed := by
  have cut : Text.joined Path.slash (piece :: next :: rest) =
      piece ++ Path.slash :: Text.joined Path.slash (next :: rest) := rfl
  rw [cut, Path.slashed_append]
  rcases plain with rfl | rfl <;> rfl

theorem ofText?_dropParts (pieces : List (List UInt8)) :
    ofText? (Path.mk (Text.joined Path.slash pieces)).slashed =
      ofText? (Path.mk (Text.joined Path.slash (Path.dropParts 0 pieces))).slashed := by
  induction pieces with
  | nil => rfl
  | cons piece more ih =>
      cases idle : Path.isIdle piece with
      | false => simp [Path.dropParts, idle]
      | true =>
          have drop_eq : Path.dropParts 0 (piece :: more) = Path.dropParts 0 more := by
            simp [Path.dropParts, idle]
          have plain : piece = [] ∨ piece = [Path.dot] := by simpa [Path.isIdle] using idle
          rw [drop_eq, ← ih]
          cases more with
          | nil => rcases plain with rfl | rfl <;> decide
          | cons next rest =>
              rw [slashed_joined_cons plain]
              rcases plain with rfl | rfl <;> exact ofText?_below (by decide) (by decide)

theorem of?_join_of_relative (root : Path) {rel : List UInt8}
    (relative : (Path.mk rel).isAbsolute = false) :
    of? root (root.join rel) =
      ofText? (Path.mk (Text.joined Path.slash (Path.inner rel))).slashed := by
  by_cases written : root.bytes = []
  · obtain ⟨pieces, below, kept⟩ := Path.below?_join_of_empty written relative
    rw [of?, below, ← kept, ← ofText?_dropParts]
    rfl
  · rw [of?, Path.below?_join_of_relative written relative]
    rfl

/-- A page has the role that its text below the root is given by the rule: what is below the root
are the parts that the root has not, a reserved name counts in every folder, and joined to any root
a page has one role. -/
theorem role_iff_ruled (root path : Path) :
    (∀ role, of? root path = role ↔ Ruled (seen root path) role) ∧
    (path.below? root = none ↔ ¬ root.parts <+: path.parts) ∧
    (∀ rest, path.below? root = some rest → path.parts = root.parts ++ rest.parts) ∧
    (Reserved (seen root path) → of? root path ≠ some .episode) ∧
    ∀ rel base, (Path.mk rel).isAbsolute = false →
      of? root (root.join rel) = of? base (base.join rel) := by
  have ruled (role : Option Role) : of? root path = role ↔ Ruled (seen root path) role :=
    ofText?_eq_iff
  refine ⟨ruled, Path.below?_eq_none_iff, fun rest => Path.parts_of_below?, ?_, ?_⟩
  · intro named episode
    exact ((ruled _).1 episode).2.1 named
  · intro rel base relative
    rw [of?_join_of_relative root relative, of?_join_of_relative base relative]

theorem role_iff_ruled_reserved :
    let lesson : Path := ⟨"./l//"⟩
    let path : Path := ⟨"./l/_episodes/./old\\index.md"⟩
    let odd : Path := ⟨"/_episodes/index.md"⟩
    let rel : List UInt8 := "./_episodes/old\\a.md/"
    Reserved (seen lesson path) ∧ BelowEpisodes (seen lesson path) ∧
      of? lesson path ≠ some .episode ∧ of? lesson path = some .index ∧
      (Path.mk rel).isAbsolute = false ∧
      of? lesson (lesson.join rel) = of? odd (odd.join rel) ∧
      of? lesson (lesson.join rel) = some .episode := by
  intro lesson path odd rel
  obtain ⟨ruled, -, -, reserved_wins, any_root⟩ := role_iff_ruled lesson path
  have seen_eq : seen lesson path = "_episodes/./old/index.md".toList := by decide
  have named : Named (seen lesson path) "index.md".toList :=
    ⟨by decide, "_episodes/./old/".toList, .inr (by decide), by rw [seen_eq]; decide⟩
  have reserved : Reserved (seen lesson path) := ⟨_, by decide, named⟩
  have below : BelowEpisodes (seen lesson path) :=
    ⟨[], "./old/index".toList, .inl rfl, by decide, by rw [seen_eq]; decide⟩
  have extension : ".md".toList <:+ seen lesson path := by rw [seen_eq]; decide
  exact ⟨reserved, below, reserved_wins reserved, (ruled (some .index)).2 ⟨extension, named⟩,
    by decide, any_root rel odd (by decide), by decide⟩

end LessonAudit.Role
