import LessonAudit.Proofs.Lesson.Discovery
import LessonAudit.Proofs.Lesson.Exclusion
import LessonAudit.Proofs.Lesson.Page
import LessonAudit.Yaml.Usual
set_option autoImplicit false

namespace LessonAudit.Lesson

section

variable [Libraries] {source : Source} {policy : Policy} {renderer : Renderer} {path : Path}
  {contents : Except DiskFault (List UInt8)}

-- The page is checked, or its last finding and no other says why it is not.
def Fate.Settled (policy : Policy) (path : Path) (reached : Fate) : Prop :=
  (reached.isChecked = true ∧ ∀ f ∈ reached.faults policy path, f.isExclusion = false) ∨
    (reached.isChecked = false ∧ ∃ before final,
      reached.faults policy path = before ++ [final] ∧ final.isExclusion = true ∧
        ∀ f ∈ before, f.isExclusion = false)

theorem settled_of_role {role : Role} (placed : Role.of? source.root path = some role) :
    (fate source renderer path contents).Settled policy path := by
  unfold fate
  split
  · next fault _ =>
      exact .inr ⟨rfl, [], _, rfl, fault.isExclusion _, by simp⟩
  · next text _ =>
      split
      · next error _ =>
          refine .inr ⟨rfl, _, _, rfl, Document.renderFault_isExclusion .., ?_⟩
          exact fun f header => Document.headerFaults_not_exclusion header
      · rw [placed]
        refine .inl ⟨rfl, fun f found => ?_⟩
        rcases List.mem_append.1 found with header | inside
        · exact Document.headerFaults_not_exclusion header
        · exact Document.faults_not_exclusion inside

theorem Fate.Settled.count {reached : Fate} (settled : reached.Settled policy path) :
    reached.isChecked.toNat + (reached.faults policy path).countP Finding.isExclusion = 1 := by
  rcases settled with ⟨checked, others⟩ | ⟨unchecked, before, final, faults_eq, last, others⟩
  · rw [checked, List.countP_eq_zero.2 (by simpa using others)]
    rfl
  · have none_before : before.countP Finding.isExclusion = 0 :=
      List.countP_eq_zero.2 (by simpa using others)
    rw [unchecked, faults_eq, List.countP_append, none_before]
    simp [last]

theorem checked_add_exclusions {pages : List Path} {reached : Path → Fate}
    (settled : ∀ page ∈ pages, (reached page).Settled policy page) :
    (pages.countP fun page => (reached page).isChecked) +
        (pages.flatMap fun page => (reached page).faults policy page).countP Finding.isExclusion =
      pages.length := by
  induction pages with
  | nil => rfl
  | cons page more ih =>
      have here := (settled page (by simp)).count
      have later := ih fun other member => settled other (by simp [member])
      rw [List.countP_cons, List.flatMap_cons, List.countP_append, List.length_cons]
      cases checked : (reached page).isChecked with
      | true =>
          rw [checked, Bool.toNat_true] at here
          rw [if_pos rfl]
          omega
      | false =>
          rw [checked, Bool.toNat_false] at here
          rw [if_neg (by decide)]
          omega

structure Accounts (disk : Disk) (source : Source) (policy : Policy) (renderer : Renderer)
    (pages : List Path) (report : Report) : Prop where
  findings : report.findings =
    (Fileset.check source.root policy pages .empty).findings ++
      pages.flatMap (fun page => (fate source renderer page (disk.bytes page)).faults policy page)
  about : ∀ page ∈ pages, ∀ f ∈ (fate source renderer page (disk.bytes page)).faults policy page,
    f.IsAbout page
  placed : ∀ page ∈ pages, ∃ role, Role.of? source.root page = some role
  settled : ∀ page ∈ pages,
    (fate source renderer page (disk.bytes page)).Settled policy page
  found : report.found = pages.length
  checked : report.checked =
    pages.countP fun page => (fate source renderer page (disk.bytes page)).isChecked
  balanced : report.checked + report.findings.countP Finding.isExclusion = report.found

def whole (disk : Disk) (source : Source) (policy : Policy) (renderer : Renderer) : Progress :=
  (pages disk source.root).foldl (checkPage disk source policy renderer)
    ⟨Fileset.check source.root policy (pages disk source.root)
      (discover disk source.root .empty).2, 0⟩

theorem check_of_folder (disk : Disk) (source : Source) (policy : Policy) (renderer : Renderer)
    (present : disk.isFolder source.root = true) :
    check disk source policy renderer =
      .ok (⟨(pages disk source.root).length, (whole disk source policy renderer).checked,
        (whole disk source policy renderer).journal.findings⟩,
        (whole disk source policy renderer).journal.events) := by
  unfold check whole
  rw [if_pos present, ← discover_pages disk source.root .empty]

theorem folder_of_check {disk : Disk} {result : Report × List Event}
    (returned : check disk source policy renderer = .ok result) :
    disk.isFolder source.root = true := by
  unfold check at returned
  split at returned
  · next present => exact present
  · cases returned

theorem report_of_check {disk : Disk} {report : Report} {events : List Event}
    (returned : check disk source policy renderer = .ok (report, events)) :
    report.found = (pages disk source.root).length ∧
    report.findings = Fileset.faults source.root policy (pages disk source.root) ++
      (pages disk source.root).flatMap
        (fun page => (fate source renderer page (disk.bytes page)).faults policy page) ∧
    report.checked = (pages disk source.root).countP
      fun page => (fate source renderer page (disk.bytes page)).isChecked := by
  rw [check_of_folder disk source policy renderer (folder_of_check returned)] at returned
  cases returned
  have adds := checkPages_adds disk source policy renderer (pages disk source.root)
    ⟨Fileset.check source.root policy (pages disk source.root)
      (discover disk source.root .empty).2, 0⟩
  dsimp only at adds
  rw [Fileset.check_findings, discover_findings, Nat.zero_add] at adds
  exact ⟨rfl, adds⟩

/-- Every report of a run keeps its accounts. -/
theorem report_accounts {disk : Disk} {report : Report} {events : List Event}
    (plain : disk.PlainNames)
    (returned : check disk source policy renderer = .ok (report, events)) :
    Accounts disk source policy renderer (discover disk source.root .empty).1 report := by
  rw [discover_pages]
  obtain ⟨found, findings, checked⟩ := report_of_check returned
  -- a page without a role would be counted neither as checked nor as left out
  have settled (page : Path) (member : page ∈ pages disk source.root) :
      (fate source renderer page (disk.bytes page)).Settled policy page := by
    obtain ⟨role, placed⟩ := exists_role plain member
    exact settled_of_role placed
  have set_findings := Fileset.check_findings source.root policy (pages disk source.root) .empty
  have set_exclusions : (Fileset.faults source.root policy (pages disk source.root)).countP
      Finding.isExclusion = 0 :=
    List.countP_eq_zero.2 fun f member => by simp [Fileset.faults_not_exclusion member]
  exact {
    findings := by rw [set_findings]; exact findings
    about := fun page _ f member => Fate.faults_about _ member
    placed := fun page member => exists_role plain member
    settled
    found
    checked
    balanced := by
      rw [findings, List.countP_append, set_exclusions, Nat.zero_add, checked, found]
      exact checked_add_exclusions settled }

end

def twoPages : Disk where
  isFolder path := path == ⟨"lesson"⟩
  isFile _ := true
  names _ := ["index.md", "README.md"]
  bytes path := .ok (if path.text = "lesson/README.md" then [104, 105] else [255])

def sampleSource : Source := ⟨⟨"lesson"⟩, 100⟩

def sampleRenderer : Renderer := fun _ => .ok (.ofKind "root")

theorem report_accounts_two_pages :
    twoPages.PlainNames ∧ ∃ report events,
      check twoPages sampleSource .standard sampleRenderer = .ok (report, events) ∧
        report.found = 2 ∧ report.checked = 1 ∧
        Accounts twoPages sampleSource .standard sampleRenderer
          (discover twoPages sampleSource.root .empty).1 report := by
  have plain : twoPages.PlainNames := by
    intro folder name member
    simp only [twoPages, List.mem_cons, List.not_mem_nil, or_false] at member
    rcases member with rfl | rfl <;> decide
  have returned := check_of_folder twoPages sampleSource .standard sampleRenderer (by decide)
  exact ⟨plain, _, _, returned, by decide, by decide, report_accounts plain returned⟩

end LessonAudit.Lesson
