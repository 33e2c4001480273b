import LessonAudit.Lesson
import LessonAudit.Proofs.Role
set_option autoImplicit false

namespace LessonAudit

def Disk.PlainNames (disk : Disk) : Prop :=
  ∀ folder, ∀ name ∈ disk.names folder, Path.slash ∉ name

namespace Path

theorem mem_of_mem_insert {p q : Path} {found : List Path} (member : q ∈ insert p found) :
    q = p ∨ q ∈ found := by
  induction found with
  | nil => exact .inl (List.mem_singleton.1 member)
  | cons first more ih =>
      unfold insert at member
      split at member
      · exact List.mem_cons.1 member
      · split at member
        · exact .inr member
        · rcases List.mem_cons.1 member with rfl | later
          · exact .inr (by simp)
          · exact (ih later).imp_right (List.mem_cons_of_mem first)

theorem mem_of_mem_inserts {q : Path} {paths found : List Path}
    (member : q ∈ paths.foldl (fun found p => insert p found) found) : q ∈ found ∨ q ∈ paths := by
  induction paths generalizing found with
  | nil => exact .inl member
  | cons p more ih =>
      rcases ih member with early | later
      · rcases mem_of_mem_insert early with rfl | before
        · exact .inr (by simp)
        · exact .inl before
      · exact .inr (List.mem_cons_of_mem p later)

theorem mem_of_mem_ordered {q : Path} {paths : List Path} (member : q ∈ ordered paths) :
    q ∈ paths := by
  simpa using mem_of_mem_inserts member

end Path

namespace Lesson

variable {disk : Disk} {root page : Path}

def pages (disk : Disk) (root : Path) : List Path :=
  Path.ordered (((folders root).filter disk.isFolder).flatMap (pagesIn disk))

theorem discover_pages (disk : Disk) (root : Path) (j : Journal) :
    (discover disk root j).1 = pages disk root := by
  simp [discover, pages, List.partition_eq_filter_filter]

theorem findings_logs {α : Type} (event : α → Event) (items : List α) (j : Journal) :
    (items.foldl (fun j item => j.log (event item)) j).findings = j.findings := by
  induction items generalizing j with
  | nil => rfl
  | cons item more ih => exact ih _

theorem discover_findings (disk : Disk) (root : Path) (j : Journal) :
    (discover disk root j).2.findings = j.findings :=
  findings_logs ..

theorem exists_of_mem_pages (member : page ∈ pages disk root) :
    ∃ folder ∈ folders root, ∃ name ∈ disk.names folder,
      isPageName name = true ∧ page = folder.join name := by
  obtain ⟨folder, present, held⟩ := List.mem_flatMap.1 (Path.mem_of_mem_ordered member)
  obtain ⟨name, listed, is_file⟩ := List.mem_filterMap.1 held
  obtain ⟨listed, page_name⟩ := List.mem_filter.1 listed
  simp only [Option.ite_none_right_eq_some, Option.some.injEq] at is_file
  exact ⟨folder, (List.mem_filter.1 present).1, name, listed, page_name, is_file.2.symm⟩

theorem plain_of_page_name {name : List UInt8} (whole : Path.slash ∉ name)
    (page_name : isPageName name = true) : Path.Plain name := by
  simp only [isPageName, Bool.and_eq_true, decide_eq_true_eq] at page_name
  refine ⟨whole, ?_⟩
  cases name with
  | nil => simp at page_name
  | cons a more =>
      cases more with
      | nil => simp at page_name
      | cons b more => simp [Path.isIdle]

theorem suffix_of_page_name {name : List UInt8} (page_name : isPageName name = true) :
    Text.Utf8.encode ".md" <:+ name := by
  simp only [isPageName, Bool.and_eq_true] at page_name
  exact List.isSuffixOf_iff_suffix.1 page_name.2

theorem plain_episodeFolder : Path.Plain episodeFolder := ⟨by decide, by decide⟩

theorem plain_extrasFolder : Path.Plain extrasFolder := ⟨by decide, by decide⟩

theorem folders_eq (root : Path) :
    folders root = [root, root.join episodeFolder, root.join extrasFolder] := by
  simp [folders, sourceFolders, episodeFolder, extrasFolder]

theorem exists_role (plain : disk.PlainNames) (member : page ∈ pages disk root) :
    ∃ role, Role.of? root page = some role := by
  obtain ⟨folder, source, name, listed, page_name, rfl⟩ := exists_of_mem_pages member
  have name_plain := plain_of_page_name (plain folder name listed) page_name
  have extension := suffix_of_page_name page_name
  simp only [folders_eq, List.mem_cons, List.not_mem_nil, or_false] at source
  -- below the root, the page is its name alone or a folder and its name
  rcases source with rfl | rfl | rfl
  · exact Role.exists_of_join name_plain extension
  · exact Role.exists_of_join_join plain_episodeFolder name_plain extension
  · exact Role.exists_of_join_join plain_extrasFolder name_plain extension

end Lesson
end LessonAudit
