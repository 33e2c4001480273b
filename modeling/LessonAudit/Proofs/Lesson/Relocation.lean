import LessonAudit.Proofs.Lesson.Enumeration
import LessonAudit.Proofs.Path.Relocation
import Mathlib.Data.List.Forall2
set_option autoImplicit false

namespace LessonAudit

open LessonAudit.Tree (Node)
open Text.Utf8 (encode)

namespace Episode

theorem textNumber?_append {before : List Char} (whole : Text.Whole '/' before)
    (rest : List Char) :
    textNumber? (before ++ (episodeFolder.toList ++ '/' :: rest)) =
      textNumber? (episodeFolder.toList ++ '/' :: rest) := by
  have folder_free : '/' ∉ episodeFolder.toList := by decide
  obtain ⟨folders, rfl, free⟩ := Text.exists_terminated whole
  have parts_free : ∀ p ∈ folders ++ episodeFolder.toList :: [], '/' ∉ p := by
    intro p member
    rcases List.mem_append.1 member with above | here
    · exact free p above
    · rwa [List.mem_singleton.1 here]
  have front_eq : Text.pieces '/' (Text.terminated '/' folders ++ episodeFolder.toList) =
      folders ++ [episodeFolder.toList] := by
    simpa using Text.pieces_joint parts_free
  have long_eq : Text.pieces '/' (Text.terminated '/' folders ++ (episodeFolder.toList ++ '/' :: rest)) =
      folders ++ episodeFolder.toList :: Text.pieces '/' rest := by
    rw [← List.append_assoc, Text.pieces_append, front_eq, List.append_assoc, List.singleton_append]
  have short_eq : Text.pieces '/' (episodeFolder.toList ++ '/' :: rest) =
      episodeFolder.toList :: Text.pieces '/' rest := by
    rw [Text.pieces_append, Text.pieces_of_not_mem folder_free, List.singleton_append]
  rw [textNumber?_eq, textNumber?_eq]
  unfold pathNumber?
  rw [long_eq, short_eq]
  -- the last two pieces are those of the rest, or its only one and the episode folder
  cases last : (Text.pieces '/' rest).reverse with
  | nil => exact absurd (List.reverse_eq_nil_iff.1 last) (Text.pieces_ne_nil '/' rest)
  | cons name more => cases more <;> simp [last]

theorem number?_join_join (base : Path) {name : List UInt8} (folder_plain : Path.Plain episodeFolder)
    (plain : Path.Plain name) :
    number? ((base.join episodeFolder).join name) =
      (textNumber? (episodeFolder.toList ++ '/' :: (Path.mk name).slashed)).map String.ofList := by
  have folder_eq : (Path.mk episodeFolder).slashed = episodeFolder.toList := by decide
  obtain ⟨above, whole, slashed_eq⟩ := base.slashed_join (folder_plain.relative_append name)
  rw [Path.slashed_append, folder_eq] at slashed_eq
  rw [number?, Path.join_join base folder_plain plain, slashed_eq, textNumber?_append whole]

end Episode

namespace Finding

/-- The findings are about, or name, paths that lie alike below the two roots, and are the same in
all else. -/
inductive Corresponds (root base : Path) : Finding → Finding → Prop
  | placed {file file' : Path} {line : Option Nat} {message : String}
      (alike : Path.LieAlike root base file file') :
      Corresponds root base ⟨some ⟨file, line⟩, message⟩ ⟨some ⟨file', line⟩, message⟩
  | general {message : String} : Corresponds root base ⟨none, message⟩ ⟨none, message⟩
  | missing {path path' : Path} (alike : Path.LieAlike root base path path') :
      Corresponds root base ⟨none, "Missing required file " ++ path.text⟩
        ⟨none, "Missing required file " ++ path'.text⟩
  | unnamed {path path' : Path} (alike : Path.LieAlike root base path path') :
      Corresponds root base ⟨none, "Episode " ++ path.text ++ " has badly-formatted filename"⟩
        ⟨none, "Episode " ++ path'.text ++ " has badly-formatted filename"⟩

def refile (file : Path) (f : Finding) : Finding :=
  { f with location := f.location.map fun place => { place with file } }

end Finding

theorem Journal.faultUnless_refile (file file' : Path) (line : Option Nat) (holds : Bool)
    (message : String) :
    faultUnless holds (some ⟨file', line⟩) message =
      (faultUnless holds (some ⟨file, line⟩) message).map (Finding.refile file') := by
  cases holds <;> rfl

theorem Journal.fieldFaults_refile (file file' : Path) (name field expected : String)
    (members : Dict Json.Value) :
    fieldFaults (some (.whole file')) name members field expected =
      (fieldFaults (some (.whole file)) name members field expected).map (Finding.refile file') := by
  unfold fieldFaults
  cases members.get? field with
  | none => rfl
  | some actual => exact faultUnless_refile ..

namespace Document

theorem headerFaults_refile [Libraries] (file file' : Path) (raw : Option String) :
    headerFaults file' raw = (headerFaults file raw).map (Finding.refile file') := by
  unfold headerFaults
  split <;> rfl

variable (d : Document) (file : Path)

theorem roleFaults_refile (role : Role) :
    roleFaults { d with path := file } role = (d.roleFaults role).map (Finding.refile file) := by
  unfold roleFaults
  cases role.needsHeader with
  | false => exact Journal.faultUnless_refile ..
  | true =>
      cases d.metadata with
      | none => rfl
      | some members =>
          cases role.layout? with
          | none => rfl
          | some layout => exact Journal.fieldFaults_refile ..

theorem classFaults_refile (kind : String) (known : List String) :
    classFaults { d with path := file } kind known =
      (d.classFaults kind known).map (Finding.refile file) := by
  unfold classFaults
  rw [List.map_flatMap]
  refine congrArg (List.flatMap · _) (funext fun n => ?_)
  unfold classFault locationOf
  cases n.location with
  | none => exact Journal.faultUnless_refile ..
  | some line => exact Journal.faultUnless_refile ..

theorem faults_refile (role : Role) (policy : Policy) :
    faults { d with path := file } role policy = (d.faults role policy).map (Finding.refile file) := by
  simp only [faults, roleFaults_refile, classFaults_refile, List.map_append]

end Document

namespace Lesson

def folderIn (root : Path) (name : String) : Path :=
  if name = "" then root else root.join name

structure SameFolder (disk other : Disk) (folder folder' : Path) : Prop where
  names : ∀ name, name ∈ other.names folder' ↔ name ∈ disk.names folder
  files : ∀ name ∈ disk.names folder, other.isFile (folder'.join name) = disk.isFile (folder.join name)
  bytes : ∀ name ∈ disk.names folder, disk.isFile (folder.join name) = true →
    other.bytes (folder'.join name) = disk.bytes (folder.join name)

/-- The same lesson stands below `root` on one disk and below `base` on the other. -/
structure SameLesson (disk other : Disk) (root base : Path) : Prop where
  folders : ∀ folder ∈ sourceFolders,
    other.isFolder (folderIn base folder) = disk.isFolder (folderIn root folder)
  contents : ∀ folder ∈ sourceFolders, disk.isFolder (folderIn root folder) = true →
    SameFolder disk other (folderIn root folder) (folderIn base folder)

def moved (root base page : Path) : Path :=
  base.join ((page.below? root).getD page).bytes

variable {disk other : Disk} {root base page : Path} {folder : String} {name : List UInt8}

theorem isPage_iff : IsPage disk root page ↔ ∃ folder ∈ sourceFolders,
    disk.isFolder (folderIn root folder) = true ∧ ∃ name ∈ disk.names (folderIn root folder),
      HasExtension name "md" ∧ disk.isFile ((folderIn root folder).join name) = true ∧
        page = (folderIn root folder).join name := by
  have folders_eq : [root, root.join episodeFolder, root.join extrasFolder] =
      sourceFolders.map (folderIn root) := (folders_eq root).symm
  simp only [IsPage, folders_eq, List.mem_map, exists_exists_and_eq_and]

theorem folderIn_cases (known : folder ∈ sourceFolders) :
    (∀ root, folderIn root folder = root) ∨
      Path.Plain folder ∧ ∀ root, folderIn root folder = root.join folder := by
  simp only [sourceFolders, List.mem_cons, List.not_mem_nil, or_false] at known
  rcases known with rfl | rfl | rfl
  · exact .inl fun _ => rfl
  · exact .inr ⟨plain_episodeFolder, fun _ => rfl⟩
  · exact .inr ⟨plain_extrasFolder, fun _ => rfl⟩

theorem lieAlike_page (known : folder ∈ sourceFolders) (plain : Path.Plain name) :
    Path.LieAlike root base ((folderIn root folder).join name) ((folderIn base folder).join name) := by
  rcases folderIn_cases known with top | ⟨folder_plain, inner⟩
  · simp only [top, Path.lieAlike_join root base plain]
  · simp only [inner, Path.lieAlike_join_join root base folder_plain plain]

theorem moved_page (known : folder ∈ sourceFolders) (plain : Path.Plain name) :
    moved root base ((folderIn root folder).join name) = (folderIn base folder).join name := by
  rcases folderIn_cases known with top | ⟨folder_plain, inner⟩
  · simp [moved, top, Path.below?_join root plain]
  · simp [moved, inner, Path.below?_join_join root folder_plain plain,
      Path.join_join base folder_plain plain]

theorem isPage_moved (plain : disk.PlainNames) (same : SameLesson disk other root base)
    (is_page : IsPage disk root page) : IsPage other base (moved root base page) := by
  obtain ⟨folder, known, present, name, listed, extension, is_file, rfl⟩ := isPage_iff.1 is_page
  have name_plain := plain_of_page_name (plain _ name listed) (isPageName_iff.2 extension)
  have contents := same.contents folder known present
  refine isPage_iff.2 ⟨folder, known, ?_, name, (contents.names name).2 listed, extension, ?_,
    moved_page known name_plain⟩
  · rw [same.folders folder known, present]
  · rw [contents.files name listed, is_file]

theorem exists_moved (plain : disk.PlainNames) (same : SameLesson disk other root base)
    (is_page : IsPage other base page) :
    ∃ origin, IsPage disk root origin ∧ moved root base origin = page := by
  obtain ⟨folder, known, present, name, listed, extension, is_file, rfl⟩ := isPage_iff.1 is_page
  rw [same.folders folder known] at present
  have contents := same.contents folder known present
  have listed := (contents.names name).1 listed
  have name_plain := plain_of_page_name (plain _ name listed) (isPageName_iff.2 extension)
  rw [contents.files name listed] at is_file
  exact ⟨_, isPage_iff.2 ⟨folder, known, present, name, listed, extension, is_file, rfl⟩,
    moved_page known name_plain⟩

theorem lieAlike_moved (plain : disk.PlainNames) (base : Path) (is_page : IsPage disk root page) :
    Path.LieAlike root base page (moved root base page) := by
  obtain ⟨folder, known, -, name, listed, extension, -, rfl⟩ := isPage_iff.1 is_page
  have name_plain := plain_of_page_name (plain _ name listed) (isPageName_iff.2 extension)
  rw [moved_page known name_plain]
  exact lieAlike_page known name_plain

theorem bytes_moved (plain : disk.PlainNames) (same : SameLesson disk other root base)
    (is_page : IsPage disk root page) : other.bytes (moved root base page) = disk.bytes page := by
  obtain ⟨folder, known, present, name, listed, extension, is_file, rfl⟩ := isPage_iff.1 is_page
  have name_plain := plain_of_page_name (plain _ name listed) (isPageName_iff.2 extension)
  rw [moved_page known name_plain]
  exact (same.contents folder known present).bytes name listed is_file

theorem number?_moved (plain : disk.PlainNames) (base : Path) (is_page : IsPage disk root page)
    (episode : page.startsWith (root.join episodeFolder) = true) :
    Episode.number? (moved root base page) = Episode.number? page := by
  obtain ⟨folder, known, -, name, listed, extension, -, rfl⟩ := isPage_iff.1 is_page
  have name_plain := plain_of_page_name (plain _ name listed) (isPageName_iff.2 extension)
  rw [moved_page known name_plain]
  rw [Path.startsWith_iff, Path.parts_join root plain_episodeFolder] at episode
  rcases folderIn_cases known with top | ⟨folder_plain, inner⟩
  · rw [top, Path.parts_join root name_plain, List.prefix_append_right_inj,
      List.cons_prefix_cons] at episode
    have name_eq : encode episodeFolder = name := Path.partOf_injective episode.1
    rw [← isPageName_iff, ← name_eq] at extension
    exact absurd extension (by decide)
  · rw [inner, Path.parts_join_join root folder_plain name_plain, List.prefix_append_right_inj,
      List.cons_prefix_cons] at episode
    have folder_eq : encode episodeFolder = encode folder := Path.partOf_injective episode.1
    rw [inner, inner, ← folder_eq, Episode.number?_join_join _ plain_episodeFolder name_plain,
      Episode.number?_join_join _ plain_episodeFolder name_plain]

theorem pages_moved (plain : disk.PlainNames) (plain' : other.PlainNames)
    (same : SameLesson disk other root base) :
    pages other base = (pages disk root).map (moved root base) := by
  have is_page {p : Path} (member : p ∈ pages disk root) : IsPage disk root p :=
    (mem_pages_iff plain).1 member
  refine (eq_pages_of_rising plain' ?_ fun p => ?_).symm
  · refine List.pairwise_map.2 ((rising_pages disk root).imp_of_mem fun first second below => ?_)
    have alike := lieAlike_moved plain base (is_page first)
    exact (alike.precedes_iff (lieAlike_moved plain base (is_page second))).1 below
  · rw [List.mem_map]
    constructor
    · rintro ⟨origin, member, rfl⟩
      exact isPage_moved plain same (is_page member)
    · intro found
      obtain ⟨origin, origin_page, moved_eq⟩ := exists_moved plain same found
      exact ⟨origin, (mem_pages_iff plain).2 origin_page, moved_eq⟩

end Lesson

theorem forall₂_flatMap {α : Type} {R : Finding → Finding → Prop} {f g : α → List Finding}
    {items : List α} (related : ∀ item ∈ items, List.Forall₂ R (f item) (g item)) :
    List.Forall₂ R (items.flatMap f) (items.flatMap g) := by
  induction items with
  | nil => exact .nil
  | cons item more ih =>
      rw [List.flatMap_cons, List.flatMap_cons]
      exact List.rel_append (related item (by simp))
        (ih fun other member => related other (by simp [member]))

namespace Fileset

variable {root base : Path} {policy : Policy} {pages : List Path} {move : Path → Path}

open Finding (Corresponds)

theorem requirementFaults_moved (written : root.bytes ≠ []) (written' : base.bytes ≠ [])
    (is_text : root.isText = true) (is_text' : base.isText = true)
    (alike : ∀ page ∈ pages, Path.LieAlike root base page (move page)) {r : Requirement}
    (rooted : r.Rooted) :
    List.Forall₂ (Corresponds root base) (requirementFaults root pages r)
      (requirementFaults base (pages.map move) r) := by
  have resolved := Requirement.lieAlike_resolve rooted written written' is_text is_text'
  have present_eq : (pages.map move).any (r.resolve base).same =
      pages.any (r.resolve root).same := by
    rw [List.any_map, Bool.eq_iff_iff, List.any_eq_true, List.any_eq_true]
    refine exists_congr fun page => and_congr_right fun member => ?_
    rw [Function.comp_apply, resolved.same_eq (alike page member)]
  simp only [requirementFaults, present_eq, Journal.faultUnless]
  split
  · exact .nil
  · exact .cons (.missing resolved) .nil

theorem episodes_moved (alike : ∀ page ∈ pages, Path.LieAlike root base page (move page)) :
    episodes base (pages.map move) = (episodes root pages).map move := by
  unfold episodes
  rw [List.filter_map]
  refine congrArg (List.map move) (List.filter_congr fun page member => ?_)
  exact ((alike page member).startsWith_eq Lesson.plain_episodeFolder).symm

theorem numberFaults_corresponds (texts : List String) :
    List.Forall₂ (Corresponds root base) (Episode.numberFaults texts) (Episode.numberFaults texts) := by
  have silent_or_general (holds : Bool) (message : String) :
      List.Forall₂ (Corresponds root base) (Journal.faultUnless holds none message)
        (Journal.faultUnless holds none message) := by
    cases holds with
    | true => exact .nil
    | false => exact .cons .general .nil
  unfold Episode.numberFaults
  exact List.rel_append (silent_or_general ..)
    (List.rel_append (silent_or_general ..) (silent_or_general ..))

theorem faults_moved (written : root.bytes ≠ []) (written' : base.bytes ≠ [])
    (texts : policy.required ≠ [] → root.isText = true ∧ base.isText = true)
    (rooted : ∀ r ∈ policy.required, r.Rooted)
    (alike : ∀ page ∈ pages, Path.LieAlike root base page (move page))
    (numbered : ∀ page ∈ episodes root pages, Episode.number? (move page) = Episode.number? page) :
    List.Forall₂ (Corresponds root base) (faults root policy pages)
      (faults base policy (pages.map move)) := by
  have names_related : List.Forall₂ (Corresponds root base)
      ((episodes root pages).flatMap nameFaults)
      ((episodes base (pages.map move)).flatMap nameFaults) := by
    rw [episodes_moved alike, List.flatMap_map]
    refine forall₂_flatMap fun page member => ?_
    have page_alike := alike page (List.mem_filter.1 member).1
    simp only [nameFaults, numbered page member, Journal.faultUnless]
    split
    · exact .nil
    · exact .cons (.unnamed page_alike) .nil
  have numbers_eq : numbers base (pages.map move) = numbers root pages := by
    unfold numbers
    rw [episodes_moved alike, List.filterMap_map]
    exact List.filterMap_congr numbered
  have required_related (r : Requirement) (member : r ∈ policy.required) :
      List.Forall₂ (Corresponds root base) (requirementFaults root pages r)
        (requirementFaults base (pages.map move) r) := by
    obtain ⟨is_text, is_text'⟩ := texts (List.ne_nil_of_mem member)
    exact requirementFaults_moved written written' is_text is_text' alike (rooted r member)
  unfold faults
  rw [numbers_eq]
  exact List.rel_append
    (forall₂_flatMap fun r member => required_related r member)
    (List.rel_append names_related (numberFaults_corresponds _))

end Fileset

/-- The counts and the verdict are the same, and the findings correspond one by one. -/
structure Report.Corresponds (root base : Path) (report report' : Report) : Prop where
  found : report'.found = report.found
  checked : report'.checked = report.checked
  ok : report'.ok = report.ok
  findings : List.Forall₂ (Finding.Corresponds root base) report.findings report'.findings

namespace Lesson

variable {disk other : Disk} {root base page file : Path} {limit : UInt64} {policy : Policy}
  {renderer : Renderer}

theorem Fate.faults_refile [Libraries] (reached : Fate) (page file : Path) :
    reached.faults policy file = (reached.faults policy page).map (Finding.refile file) := by
  cases reached with
  | unread fault => rfl
  | unrendered text error =>
      simp only [Fate.faults, List.map_append, ← Document.headerFaults_refile]
      rfl
  | unplaced text => exact Document.headerFaults_refile ..
  | checked text tree role =>
      simp only [Fate.faults, List.map_append, ← Document.headerFaults_refile,
        ← Document.faults_refile]
      rfl

theorem Fate.faults_correspond [Libraries] (reached : Fate)
    (alike : Path.LieAlike root base page file) :
    List.Forall₂ (Finding.Corresponds root base) (reached.faults policy page)
      (reached.faults policy file) := by
  rw [reached.faults_refile page file, List.forall₂_map_right_iff, List.forall₂_same]
  intro f member
  obtain ⟨line, place⟩ := reached.faults_about member
  obtain ⟨location, message⟩ := f
  cases place
  exact .placed alike

theorem fate_eq (alike : Path.LieAlike root base page file)
    (contents : Except DiskFault (List UInt8)) :
    fate ⟨base, limit⟩ renderer file contents = fate ⟨root, limit⟩ renderer page contents := by
  obtain ⟨rest, page_below, file_below⟩ := alike.below
  have role_eq : Role.of? base file = Role.of? root page := by
    rw [Role.of?, Role.of?, page_below, file_below]
    rfl
  unfold fate
  simp only [role_eq]
  rfl

theorem corresponds_of_check [Libraries] {report report' : Report} {events events' : List Event}
    (written : root.bytes ≠ []) (written' : base.bytes ≠ [])
    (texts : policy.required ≠ [] → root.isText = true ∧ base.isText = true)
    (plain : disk.PlainNames) (plain' : other.PlainNames) (same : SameLesson disk other root base)
    (rooted : ∀ r ∈ policy.required, r.Rooted)
    (returned : check disk ⟨root, limit⟩ policy renderer = .ok (report, events))
    (returned' : check other ⟨base, limit⟩ policy renderer = .ok (report', events')) :
    report.Corresponds root base report' := by
  obtain ⟨found, findings, checked⟩ := report_of_check returned
  obtain ⟨found', findings', checked'⟩ := report_of_check returned'
  have pages_eq := pages_moved plain plain' same
  have is_page {p : Path} (member : p ∈ pages disk root) : IsPage disk root p :=
    (mem_pages_iff plain).1 member
  have alike (p : Path) (member : p ∈ pages disk root) :
      Path.LieAlike root base p (moved root base p) := lieAlike_moved plain base (is_page member)
  have fates_eq (p : Path) (member : p ∈ pages disk root) :
      fate ⟨base, limit⟩ renderer (moved root base p) (other.bytes (moved root base p)) =
        fate ⟨root, limit⟩ renderer p (disk.bytes p) := by
    rw [bytes_moved plain same (is_page member)]
    exact fate_eq (alike p member) _
  have related : List.Forall₂ (Finding.Corresponds root base) report.findings report'.findings := by
    rw [findings, findings', pages_eq, List.flatMap_map]
    refine List.rel_append (Fileset.faults_moved written written' texts rooted alike fun p member => ?_)
      (forall₂_flatMap fun p member => ?_)
    · obtain ⟨listed, episode⟩ := List.mem_filter.1 member
      exact number?_moved plain base (is_page listed) episode
    · rw [fates_eq p member]
      exact Fate.faults_correspond _ (alike p member)
  exact {
    found := by rw [found', found, pages_eq, List.length_map]
    checked := by
      rw [checked', checked, pages_eq, List.countP_map]
      exact List.countP_congr fun p member => by rw [Function.comp_apply, fates_eq p member]
    ok := by
      rw [Report.ok, Report.ok, Bool.eq_iff_iff, List.isEmpty_iff_length_eq_zero,
        List.isEmpty_iff_length_eq_zero, related.length_eq]
    findings := related }

/-- Where a lesson lies makes no difference to its report, but for the roots in paths, which have to
be texts if any page is required. -/
theorem report_relocated [Libraries] (written : root.bytes ≠ []) (written' : base.bytes ≠ [])
    (texts : policy.required ≠ [] →
      (∃ text, root.bytes = encode text) ∧ ∃ text, base.bytes = encode text)
    (plain : disk.PlainNames) (plain' : other.PlainNames) (same : SameLesson disk other root base)
    (rooted : ∀ r ∈ policy.required, r.Rooted) (present : disk.isFolder root = true) :
    ∃ report events report' events',
      check disk ⟨root, limit⟩ policy renderer = .ok (report, events) ∧
        check other ⟨base, limit⟩ policy renderer = .ok (report', events') ∧
          report.Corresponds root base report' := by
  have present' : other.isFolder base = true := by
    have kept := same.folders "" (by simp [sourceFolders])
    exact kept.trans present
  have texts := fun required => (texts required).imp Path.isText_iff.2 Path.isText_iff.2
  have returned := check_of_folder disk ⟨root, limit⟩ policy renderer present
  have returned' := check_of_folder other ⟨base, limit⟩ policy renderer present'
  exact ⟨_, _, _, _, returned, returned',
    corresponds_of_check written written' texts plain plain' same rooted returned returned'⟩

def twinFolders : Disk where
  isFolder path := path == ⟨"lesson"⟩ || path == ⟨"./old/_episodes/"⟩
  isFile _ := true
  names _ := ["index.md", "01-setup.md"]
  bytes path := .ok (if path.parts.getLast? = some (.name "index.md") then [104, 105] else [255])

def licensePolicy : Policy := ⟨[], [], [⟨true, "%/LICENSE.md"⟩]⟩

theorem report_relocated_twin_folders :
    twinFolders.PlainNames ∧ SameLesson twinFolders twinFolders ⟨"lesson"⟩ ⟨"./old/_episodes/"⟩ ∧
      (∀ r ∈ licensePolicy.required, r.Rooted) ∧
      ∃ report events report' events',
        check twinFolders ⟨⟨"lesson"⟩, 100⟩ licensePolicy sampleRenderer = .ok (report, events) ∧
          check twinFolders ⟨⟨"./old/_episodes/"⟩, 100⟩ licensePolicy sampleRenderer =
              .ok (report', events') ∧
            report.Corresponds ⟨"lesson"⟩ ⟨"./old/_episodes/"⟩ report' := by
  have plain : twinFolders.PlainNames := by
    intro folder name member
    simp only [twinFolders, List.mem_cons, List.not_mem_nil, or_false] at member
    rcases member with rfl | rfl <;> decide
  have same : SameLesson twinFolders twinFolders ⟨"lesson"⟩ ⟨"./old/_episodes/"⟩ := by
    refine ⟨by decide, fun folder known _ => ⟨fun _ => Iff.rfl, fun _ _ => rfl, ?_⟩⟩
    intro name listed _
    revert folder name
    decide
  have rooted : ∀ r ∈ licensePolicy.required, r.Rooted := by
    intro r member
    obtain rfl := List.mem_singleton.1 member
    exact ⟨"LICENSE.md".toList, by decide, by decide⟩
  have texts : licensePolicy.required ≠ [] →
      (∃ text, (⟨"lesson"⟩ : Path).bytes = encode text) ∧
        ∃ text, (⟨"./old/_episodes/"⟩ : Path).bytes = encode text :=
    fun _ => ⟨⟨_, rfl⟩, ⟨_, rfl⟩⟩
  exact ⟨plain, same, rooted,
    report_relocated (by decide) (by decide) texts plain plain same rooted (by decide)⟩

def namelessTwin : Disk where
  isFolder path := path == ⟨"b"⟩ || path == ⟨[0x62, 0xFF]⟩
  isFile _ := true
  names _ := ["LICENSE.md"]
  bytes _ := .ok (encode "---\nlayout: page\n---\n")

-- One lesson under two roots, of which the second has a name that is no text.
theorem malformed_root_adds_finding :
    namelessTwin.PlainNames ∧ SameLesson namelessTwin namelessTwin ⟨"b"⟩ ⟨[0x62, 0xFF]⟩ ∧
      (∀ r ∈ licensePolicy.required, r.Rooted) ∧
      (check namelessTwin ⟨⟨"b"⟩, 100⟩ licensePolicy sampleRenderer).toOption.map
        (fun (report, _) => report.findings) = some [] ∧
      (check namelessTwin ⟨⟨[0x62, 0xFF]⟩, 100⟩ licensePolicy sampleRenderer).toOption.map
        (fun (report, _) => report.findings) =
          some [⟨none, "Missing required file b\uFFFD/LICENSE.md"⟩] := by
  refine ⟨?_, ⟨by decide, fun folder known _ => ⟨fun _ => Iff.rfl, fun _ _ => rfl, ?_⟩⟩, ?_,
    by decide +kernel, by decide +kernel⟩
  · intro folder name member
    obtain rfl := List.mem_singleton.1 member
    decide
  · exact fun _ _ _ => rfl
  · intro r member
    obtain rfl := List.mem_singleton.1 member
    exact ⟨"LICENSE.md".toList, by decide, by decide⟩

end Lesson
end LessonAudit
