import LessonAudit.Proofs.Lesson.Accounting
import LessonAudit.Proofs.Path.Order
import Mathlib.Data.List.Sort
set_option autoImplicit false

namespace LessonAudit

def HasExtension (name extension : List UInt8) : Prop :=
  ∃ stem, stem ≠ [] ∧ Path.dot ∉ extension ∧ name = stem ++ Path.dot :: extension

structure Disk.Reenumerates (other disk : Disk) : Prop where
  folders : other.isFolder = disk.isFolder
  files : other.isFile = disk.isFile
  names : ∀ folder, (other.names folder).Perm (disk.names folder)
  bytes : other.bytes = disk.bytes

namespace Lesson

variable {disk other : Disk} {root page : Path}

theorem isPageName_iff {name : List UInt8} :
    isPageName name = true ↔ HasExtension name "md" := by
  have extension_eq : Text.Utf8.encode ".md" = Path.dot :: Text.Utf8.encode "md" := by decide
  have extension_length : (Text.Utf8.encode "md").length = 2 := by decide
  simp only [isPageName, Bool.and_eq_true, decide_eq_true_eq, List.isSuffixOf_iff_suffix,
    extension_eq]
  constructor
  · rintro ⟨long, stem, rfl⟩
    refine ⟨stem, ?_, by decide, rfl⟩
    rintro rfl
    simp [extension_length] at long
  · rintro ⟨stem, some_stem, -, rfl⟩
    refine ⟨?_, stem, rfl⟩
    have positive := List.length_pos_iff.2 some_stem
    simp only [List.length_append, List.length_cons, extension_length]
    omega

def IsPage (disk : Disk) (root page : Path) : Prop :=
  ∃ folder ∈ [root, root.join episodeFolder, root.join extrasFolder],
    disk.isFolder folder = true ∧ ∃ name ∈ disk.names folder, HasExtension name "md" ∧
      disk.isFile (folder.join name) = true ∧ page = folder.join name

theorem isPage_iff_mem : IsPage disk root page ↔
    page ∈ ((folders root).filter disk.isFolder).flatMap (pagesIn disk) := by
  simp only [IsPage, ← isPageName_iff, ← folders_eq, List.mem_flatMap, List.mem_filter, pagesIn,
    List.mem_filterMap, Option.ite_none_right_eq_some, Option.some.injEq, and_assoc,
    eq_comm (a := page)]

theorem exists_plain_of_folder {folder : Path}
    (known : folder ∈ [root, root.join episodeFolder, root.join extrasFolder]) :
    folder = root ∨ ∃ name, Path.Plain name ∧ folder = root.join name := by
  simp only [List.mem_cons, List.not_mem_nil, or_false] at known
  rcases known with rfl | rfl | rfl
  · exact .inl rfl
  · exact .inr ⟨_, plain_episodeFolder, rfl⟩
  · exact .inr ⟨_, plain_extrasFolder, rfl⟩

theorem folder_eq_of_parts_eq {folder next : Path}
    (known : folder ∈ [root, root.join episodeFolder, root.join extrasFolder])
    (next_known : next ∈ [root, root.join episodeFolder, root.join extrasFolder])
    (same : folder.parts = next.parts) : folder = next := by
  rcases exists_plain_of_folder known with rfl | ⟨name, plain, rfl⟩
  · rcases exists_plain_of_folder next_known with rfl | ⟨name, plain, rfl⟩
    · rfl
    · simp [Path.parts_join _ plain] at same
  · rcases exists_plain_of_folder next_known with rfl | ⟨name', plain', rfl⟩
    · simp [Path.parts_join _ plain] at same
    · rw [Path.parts_join _ plain, Path.parts_join _ plain'] at same
      have last := List.singleton_inj.1 (List.append_cancel_left same)
      rw [Path.partOf_injective last]

theorem IsPage.eq_of_parts_eq (plain : disk.PlainNames) {next : Path} (first : IsPage disk root page)
    (second : IsPage disk root next) (same : page.parts = next.parts) : page = next := by
  obtain ⟨folder, known, -, name, listed, extension, -, rfl⟩ := first
  obtain ⟨folder', known', -, name', listed', extension', -, rfl⟩ := second
  have name_plain := plain_of_page_name (plain folder name listed) (isPageName_iff.2 extension)
  have name_plain' := plain_of_page_name (plain folder' name' listed') (isPageName_iff.2 extension')
  rw [Path.parts_join _ name_plain, Path.parts_join _ name_plain'] at same
  obtain ⟨folder_parts, last⟩ := List.append_inj' same rfl
  have name_eq : name = name' := Path.partOf_injective (List.singleton_inj.1 last)
  rw [folder_eq_of_parts_eq known known' folder_parts, name_eq]

theorem mem_pages_iff (plain : disk.PlainNames) : page ∈ pages disk root ↔ IsPage disk root page := by
  constructor
  · intro member
    exact isPage_iff_mem.2 (Path.mem_of_mem_ordered member)
  · intro is_page
    -- the place of the page is in the list, and no other page has it
    obtain ⟨kept, member, place⟩ := List.mem_map.1
      (Path.place_mem_ordered.2 (List.mem_map_of_mem (isPage_iff_mem.1 is_page)))
    have kept_page := isPage_iff_mem.2 (Path.mem_of_mem_ordered member)
    rw [← kept_page.eq_of_parts_eq plain is_page place]
    exact member

theorem rising_pages (disk : Disk) (root : Path) : (pages disk root).Pairwise Path.Precedes :=
  Path.rising_ordered _

theorem eq_pages_of_rising (plain : disk.PlainNames) {paths : List Path}
    (rising : paths.Pairwise Path.Precedes) (members : ∀ p, p ∈ paths ↔ IsPage disk root p) :
    paths = pages disk root :=
  rising.eq_of_mem_iff (rising_pages disk root) fun p => by rw [members, mem_pages_iff plain]

theorem plain_of_reenumerates (plain : disk.PlainNames) (same : other.Reenumerates disk) :
    other.PlainNames :=
  fun folder name member => plain folder name ((same.names folder).mem_iff.1 member)

theorem isPage_of_reenumerates (same : other.Reenumerates disk) :
    IsPage other root page ↔ IsPage disk root page := by
  simp only [IsPage, same.folders, same.files, (same.names _).mem_iff]

theorem discover_of_reenumerates (plain : disk.PlainNames) (same : other.Reenumerates disk)
    (j : Journal) : discover other root j = discover disk root j := by
  have pages_eq : pages other root = pages disk root :=
    eq_pages_of_rising plain (rising_pages other root) fun p => by
      rw [mem_pages_iff (plain_of_reenumerates plain same), isPage_of_reenumerates same]
  unfold discover
  rw [same.folders]
  have found_eq := pages_eq
  simp only [pages, same.folders] at found_eq
  simp only [List.partition_eq_filter_filter, found_eq]

theorem checkPage_of_reenumerates [Libraries] (same : other.Reenumerates disk) :
    checkPage other = checkPage disk := by
  funext source policy renderer p path
  have text_eq : other.readText path source.limit = disk.readText path source.limit := by
    rw [Disk.readText_eq_holding, Disk.readText_eq_holding disk, same.bytes]
  rw [checkPage, checkPage, text_eq]

theorem check_of_reenumerates [Libraries] (plain : disk.PlainNames)
    (same : other.Reenumerates disk) (source : Source) (policy : Policy) (renderer : Renderer) :
    check other source policy renderer = check disk source policy renderer := by
  unfold check
  rw [same.folders, discover_of_reenumerates plain same, checkPage_of_reenumerates same]

structure Discovered (disk : Disk) (root : Path) (found : List Path) : Prop where
  rising : found.Pairwise Path.Precedes
  distinct : (found.map Path.parts).Nodup
  exact : ∀ page, page ∈ found ↔ IsPage disk root page

/-- The pages that are found, and that no order of names makes a difference to a run. -/
theorem discovery_exact_of_any_order [Libraries] (plain : disk.PlainNames) (j : Journal) :
    Discovered disk root (discover disk root j).1 ∧
      (discover disk root j).2.findings = j.findings ∧
      ∀ other : Disk, other.Reenumerates disk → ∀ source policy renderer,
        check other source policy renderer = check disk source policy renderer := by
  refine ⟨?_, discover_findings disk root j, fun other same => check_of_reenumerates plain same⟩
  rw [discover_pages]
  exact {
    rising := rising_pages disk root
    distinct := List.pairwise_map.2 ((rising_pages disk root).imp fun below => below.parts_ne)
    exact := fun page => mem_pages_iff plain }

def mixedFolder : Disk where
  isFolder path := path == ⟨"lesson"⟩
  isFile path := path != ⟨"lesson/deep.md"⟩
  names _ := ["index.md", ".md", "x.MD", "deep.md", "..md", "b.c.md"]
  bytes _ := .ok []

theorem discovery_exact_of_any_order_mixed :
    let backwards := { mixedFolder with names := fun folder => (mixedFolder.names folder).reverse }
    mixedFolder.PlainNames ∧ backwards.Reenumerates mixedFolder ∧
      Discovered mixedFolder sampleSource.root [⟨"lesson/..md"⟩, ⟨"lesson/b.c.md"⟩,
        ⟨"lesson/index.md"⟩] ∧
      check backwards sampleSource .standard sampleRenderer =
        check mixedFolder sampleSource .standard sampleRenderer := by
  intro backwards
  have plain : mixedFolder.PlainNames := by
    intro folder name member
    simp only [mixedFolder, List.mem_cons, List.not_mem_nil, or_false] at member
    rcases member with rfl | rfl | rfl | rfl | rfl | rfl <;> decide
  have same : backwards.Reenumerates mixedFolder := ⟨rfl, rfl, fun _ => List.reverse_perm _, rfl⟩
  have found : (discover mixedFolder sampleSource.root .empty).1 =
      [⟨"lesson/..md"⟩, ⟨"lesson/b.c.md"⟩, ⟨"lesson/index.md"⟩] := by decide
  obtain ⟨exact, -, any_order⟩ :=
    @discovery_exact_of_any_order mixedFolder sampleSource.root _ plain .empty
  rw [found] at exact
  exact ⟨plain, same, exact, any_order backwards same ..⟩

end Lesson
end LessonAudit
