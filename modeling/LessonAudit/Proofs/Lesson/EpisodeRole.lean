import LessonAudit.Proofs.Lesson.Enumeration
import LessonAudit.Proofs.Path.Relocation
set_option autoImplicit false

namespace LessonAudit

namespace Path

def fileName (p : Path) : List Char :=
  Text.Utf8.lossy ((p.parts.getLast?.map Part.label).getD [])

def namePieces (p : Path) : List (List Char) :=
  Text.pieces '\\' p.fileName

variable {root p : Path} {folder name : List UInt8}

theorem fileName_join (plain : Plain name) (forward : name ≠ [dot, dot]) (base : Path) :
    (base.join name).fileName = Text.Utf8.lossy name := by
  simp [fileName, parts_join base plain, partOf, forward, Part.label]

theorem startsWith_join_iff {piece : List UInt8} {rest : List Part} (folder_plain : Plain folder)
    (parts_eq : p.parts = root.parts ++ partOf piece :: rest) :
    p.startsWith (root.join folder) = true ↔ piece = folder := by
  rw [startsWith_iff, parts_join root folder_plain, parts_eq, List.prefix_append_right_inj]
  constructor
  · rintro ⟨behind, same⟩
    exact (partOf_injective (List.cons.inj same).1).symm
  · rintro rfl
    exact ⟨rest, rfl⟩

end Path

namespace Lesson

variable {disk : Disk} {root page : Path}

theorem mem_episodes_iff (member : page ∈ pages disk root) :
    page ∈ Fileset.episodes root (pages disk root) ↔
      page.startsWith (root.join episodeFolder) = true := by
  simp [Fileset.episodes, member]

theorem role_eq_episode_iff (plain : disk.PlainNames) (member : page ∈ pages disk root) :
    Role.of? root page = some .episode ↔
      page.namePieces.getLast?.getD [] ∉ Role.reserved ∧
        ((page.startsWith (root.join episodeFolder) = true ∧ '\n' ∉ page.fileName) ∨
          Role.EpisodeAmong page.namePieces) := by
  obtain ⟨folder, source, name, listed, page_name, rfl⟩ := exists_of_mem_pages member
  have name_plain := plain_of_page_name (plain folder name listed) page_name
  have extension := suffix_of_page_name page_name
  have name_eq : (folder.join name).fileName = Text.Utf8.lossy name := by
    refine Path.fileName_join name_plain (fun up => ?_) folder
    simp [isPageName, up] at page_name
  rw [Path.namePieces, name_eq]
  simp only [folders_eq, List.mem_cons, List.not_mem_nil, or_false] at source
  rcases source with rfl | rfl | rfl
  · have parts_eq := Path.parts_join folder name_plain
    rw [Role.of?_join_eq_episode_iff name_plain extension,
      Path.startsWith_join_iff plain_episodeFolder parts_eq]
    -- the name of the episode folder has not the extension of pages
    have other : name ≠ Text.Utf8.encode episodeFolder := by
      intro same
      rw [same] at extension
      exact absurd extension (by decide)
    simp [other]
  · have parts_eq := Path.parts_join_join root plain_episodeFolder name_plain
    rw [Role.of?_join_join_eq_episode_iff plain_episodeFolder (by decide) name_plain extension,
      Path.startsWith_join_iff plain_episodeFolder parts_eq]
  · have parts_eq := Path.parts_join_join root plain_extrasFolder name_plain
    rw [Role.of?_join_join_eq_episode_iff plain_extrasFolder (by decide) name_plain extension,
      Path.startsWith_join_iff plain_episodeFolder parts_eq]

def Agree (disk : Disk) (root page : Path) : Prop :=
  Role.of? root page = some .episode ↔
    page ∈ Fileset.episodes root (discover disk root .empty).1

/-- A page of a lesson has the role of an episode if it is numbered as one and its file name has no
line break, or if its file name has the episode folder before a backslash, unless what stands behind
the last backslash is a reserved name. So the two agree about every page whose file name is not
reserved and has neither a backslash nor a line break, and disagree about every one that has a line
break, no backslash, and a place in the episode folder. -/
theorem episode_role_iff (plain : disk.PlainNames)
    (member : page ∈ (discover disk root .empty).1) :
    (Role.of? root page = some .episode ↔
      page.namePieces.getLast?.getD [] ∉ Role.reserved ∧
        ((page ∈ Fileset.episodes root (discover disk root .empty).1 ∧ '\n' ∉ page.fileName) ∨
          Role.EpisodeAmong page.namePieces)) ∧
    (page ∈ Fileset.episodes root (discover disk root .empty).1 ↔
      (root.join episodeFolder).parts <+: page.parts) ∧
    ('\\' ∉ page.fileName → page.fileName ∉ Role.reserved →
      (Agree disk root page ↔
        (page ∈ Fileset.episodes root (discover disk root .empty).1 → '\n' ∉ page.fileName))) := by
  unfold Agree
  rw [discover_pages] at member ⊢
  have numbered_iff := mem_episodes_iff member
  have role_iff := role_eq_episode_iff plain member
  rw [← numbered_iff] at role_iff
  refine ⟨role_iff, by rw [numbered_iff, Path.startsWith_iff], ?_⟩
  intro straight unreserved
  have one_piece : page.namePieces = [page.fileName] := Text.pieces_of_not_mem straight
  have none_among : ¬ Role.EpisodeAmong page.namePieces := by
    rw [one_piece]
    exact Role.not_episodeAmong_singleton
  have free : page.namePieces.getLast?.getD [] ∉ Role.reserved := by
    rw [one_piece]
    exact unreserved
  rw [role_iff]
  constructor
  · intro agree numbered
    obtain ⟨-, ⟨-, unbroken⟩ | among⟩ := agree.2 numbered
    · exact unbroken
    · exact absurd among none_among
  · intro unbroken
    refine ⟨fun ⟨_, placed⟩ => ?_, fun numbered => ⟨free, .inl ⟨numbered, unbroken numbered⟩⟩⟩
    rcases placed with ⟨numbered, -⟩ | among
    · exact numbered
    · exact absurd among none_among

def oddNames : Disk where
  isFolder path := path == ⟨"l"⟩ || path == ⟨"l/_episodes"⟩
  isFile _ := true
  names path := if path = ⟨"l"⟩ then ["_episodes\\x.md"] else ["01-a.md", "a\nb.md"]
  bytes _ := .ok []

theorem plain_oddNames : oddNames.PlainNames := by
  intro folder name member
  simp only [oddNames] at member
  split at member
  · rw [List.mem_singleton.1 member]
    decide
  · simp only [List.mem_cons, List.not_mem_nil, or_false] at member
    rcases member with rfl | rfl <;> decide

theorem episode_role_iff_in_folder :
    oddNames.PlainNames ∧
      (⟨"l/_episodes/01-a.md"⟩ : Path) ∈ (discover oddNames ⟨"l"⟩ .empty).1 ∧
      Agree oddNames ⟨"l"⟩ ⟨"l/_episodes/01-a.md"⟩ := by
  have member : (⟨"l/_episodes/01-a.md"⟩ : Path) ∈ (discover oddNames ⟨"l"⟩ .empty).1 := by decide
  have agree_iff := (episode_role_iff plain_oddNames member).2.2 (by decide) (by decide)
  exact ⟨plain_oddNames, member, agree_iff.2 fun _ => by decide⟩

theorem odd_names_disagree :
    (⟨"l/_episodes\\x.md"⟩ : Path) ∈ (discover oddNames ⟨"l"⟩ .empty).1 ∧
      (⟨"l/_episodes\\x.md"⟩ : Path).fileName ∉ Role.reserved ∧
      ¬ Agree oddNames ⟨"l"⟩ ⟨"l/_episodes\\x.md"⟩ ∧
      (⟨"l/_episodes/a\nb.md"⟩ : Path) ∈ (discover oddNames ⟨"l"⟩ .empty).1 ∧
      (⟨"l/_episodes/a\nb.md"⟩ : Path).fileName ∉ Role.reserved ∧
      ¬ Agree oddNames ⟨"l"⟩ ⟨"l/_episodes/a\nb.md"⟩ := by
  unfold Agree
  decide

end Lesson
end LessonAudit
