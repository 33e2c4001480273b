import LessonAudit.Proofs.Lesson.Accounting
set_option autoImplicit false

namespace LessonAudit

-- `all` is `kept` and `lost` put together, each in its own order.
inductive Interleaves {α : Type} : List α → List α → List α → Prop
  | nil : Interleaves [] [] []
  | keep {a : α} {kept lost all : List α} (later : Interleaves kept lost all) :
      Interleaves (a :: kept) lost (a :: all)
  | lose {a : α} {kept lost all : List α} (later : Interleaves kept lost all) :
      Interleaves kept (a :: lost) (a :: all)

namespace Interleaves

variable {α β : Type} {kept lost all kept' lost' all' : List α}

theorem nothing_lost (kept : List α) : Interleaves kept [] kept := by
  induction kept with
  | nil => exact .nil
  | cons a kept ih => exact .keep ih

theorem nothing_kept (lost : List α) : Interleaves [] lost lost := by
  induction lost with
  | nil => exact .nil
  | cons a lost ih => exact .lose ih

theorem append (first : Interleaves kept lost all) (second : Interleaves kept' lost' all') :
    Interleaves (kept ++ kept') (lost ++ lost') (all ++ all') := by
  induction first with
  | nil => exact second
  | keep _ ih => exact .keep ih
  | lose _ ih => exact .lose ih

theorem flatMap {items : List β} {kept lost all : β → List α}
    (each : ∀ item ∈ items, Interleaves (kept item) (lost item) (all item)) :
    Interleaves (items.flatMap kept) (items.flatMap lost) (items.flatMap all) := by
  induction items with
  | nil => exact .nil
  | cons item more ih =>
      rw [List.flatMap_cons, List.flatMap_cons, List.flatMap_cons]
      exact (each item (by simp)).append (ih fun other member => each other (by simp [member]))

theorem sublist (whole : Interleaves kept lost all) : kept.Sublist all := by
  induction whole with
  | nil => exact .slnil
  | keep _ ih => exact ih.cons_cons _
  | lose _ ih => exact ih.cons _

end Interleaves

inductive Requirement.Eased : List Requirement → List Requirement → List Requirement → Prop
  | nil : Eased [] [] []
  | keep (r : Requirement) {before after eased : List Requirement}
      (later : Eased before after eased) : Eased (r :: before) (r :: after) eased
  | delete (r : Requirement) {before after eased : List Requirement}
      (later : Eased before after eased) : Eased (r :: before) after (r :: eased)
  | makeOptional (template : String) {before after eased : List Requirement}
      (later : Eased before after eased) :
      Eased (⟨true, template⟩ :: before) (⟨false, template⟩ :: after) (⟨true, template⟩ :: eased)

structure Policy.Relaxes (policy policy' : Policy) (eased : List Requirement) : Prop where
  quotes : ∀ name ∈ policy.quoteClasses, name ∈ policy'.quoteClasses
  code : ∀ name ∈ policy.codeClasses, name ∈ policy'.codeClasses
  required : Requirement.Eased policy.required policy'.required eased

theorem Fileset.requirementFaults_eased {root : Path} {pages : List Path}
    {before after eased : List Requirement} (easing : Requirement.Eased before after eased) :
    Interleaves (after.flatMap (requirementFaults root pages))
      (eased.flatMap (requirementFaults root pages))
      (before.flatMap (requirementFaults root pages)) := by
  induction easing with
  | nil => exact .nil
  | keep r _ ih => exact (Interleaves.nothing_lost (requirementFaults root pages r)).append ih
  | delete r _ ih => exact (Interleaves.nothing_kept (requirementFaults root pages r)).append ih
  | makeOptional template _ ih =>
      have optional_silent : requirementFaults root pages ⟨false, template⟩ = [] :=
        requirementFaults_eq_nil_iff.2 fun mandatory => absurd mandatory Bool.false_ne_true
      rw [List.flatMap_cons, optional_silent]
      exact (Interleaves.nothing_kept (requirementFaults root pages ⟨true, template⟩)).append ih

namespace Document

open LessonAudit.Tree (Node Pattern)

variable {d : Document} {kind : String} {known known' : List String}

def pardonedFault (d : Document) (kind : String) (known known' : List String) (n : Node) :
    List Finding :=
  match n.attrValue "class" with
  | none => []
  | some name =>
      if name ∈ known' ∧ name ∉ known then
        [⟨some (d.locationOf n), "Unknown or missing " ++ kind ++ " type " ++ name⟩]
      else []

def pardonedFaults (d : Document) (kind : String) (known known' : List String) : List Finding :=
  (d.tree.findAll (Pattern.ofKind kind)).flatMap (d.pardonedFault kind known known')

theorem classFault_relaxed (included : ∀ name ∈ known, name ∈ known') (n : Node) :
    Interleaves (d.classFault kind known' n) (d.pardonedFault kind known known' n)
      (d.classFault kind known n) := by
  unfold classFault pardonedFault
  cases n.attrValue "class" with
  | none => exact .nothing_lost _
  | some name =>
      -- a class is known to both lists, to the second only, or to neither
      by_cases strict : name ∈ known
      · simpa [Journal.faultUnless, strict, included name strict] using Interleaves.nil
      · by_cases lenient : name ∈ known'
        · simpa [Journal.faultUnless, strict, lenient] using Interleaves.nothing_kept _
        · simpa [Journal.faultUnless, strict, lenient] using Interleaves.nothing_lost _

theorem classFaults_relaxed (included : ∀ name ∈ known, name ∈ known') :
    Interleaves (d.classFaults kind known') (d.pardonedFaults kind known known')
      (d.classFaults kind known) :=
  .flatMap fun n _ => classFault_relaxed included n

def pardoned (d : Document) (policy policy' : Policy) : List Finding :=
  d.pardonedFaults "blockquote" policy.quoteClasses policy'.quoteClasses ++
    d.pardonedFaults "codeblock" policy.codeClasses policy'.codeClasses

theorem faults_relaxed {policy policy' : Policy} {eased : List Requirement}
    (relaxed : policy.Relaxes policy' eased) (role : Role) :
    Interleaves (d.faults role policy') (d.pardoned policy policy') (d.faults role policy) := by
  have quotes : Interleaves (d.classFaults "blockquote" policy'.quoteClasses) _
      (d.classFaults "blockquote" policy.quoteClasses) := classFaults_relaxed relaxed.quotes
  have code : Interleaves (d.classFaults "codeblock" policy'.codeClasses) _
      (d.classFaults "codeblock" policy.codeClasses) := classFaults_relaxed relaxed.code
  exact (Interleaves.nothing_lost (d.roleFaults role)).append (quotes.append code)

end Document

namespace Lesson

variable {disk : Disk} {source : Source} {policy policy' : Policy} {renderer : Renderer}
  {eased : List Requirement}

def Fate.pardoned [Libraries] (policy policy' : Policy) (path : Path) : Fate → List Finding
  | checked text tree _ => (Document.ofText path text tree).pardoned policy policy'
  | _ => []

theorem Fate.faults_relaxed [Libraries] (relaxed : policy.Relaxes policy' eased) (path : Path)
    (reached : Fate) :
    Interleaves (reached.faults policy' path) (reached.pardoned policy policy' path)
      (reached.faults policy path) := by
  cases reached with
  | unread | unrendered | unplaced => exact .nothing_lost _
  | checked text tree role =>
      exact (Interleaves.nothing_lost (Document.headerFaults path (Header.split text).raw)).append
        (Document.faults_relaxed relaxed role)

def pardoned [Libraries] (disk : Disk) (source : Source) (policy policy' : Policy)
    (renderer : Renderer) (eased : List Requirement) : List Finding :=
  let pages := (discover disk source.root .empty).1
  eased.flatMap (Fileset.requirementFaults source.root pages) ++
    pages.flatMap fun page =>
      (fate source renderer page (disk.bytes page)).pardoned policy policy' page

theorem findings_relaxed [Libraries] (relaxed : policy.Relaxes policy' eased)
    {report report' : Report} {events events' : List Event}
    (returned : check disk source policy renderer = .ok (report, events))
    (returned' : check disk source policy' renderer = .ok (report', events')) :
    Interleaves report'.findings (pardoned disk source policy policy' renderer eased)
      report.findings := by
  obtain ⟨-, findings, -⟩ := report_of_check returned
  obtain ⟨-, findings', -⟩ := report_of_check returned'
  have set_findings : Interleaves
      (Fileset.faults source.root policy' (pages disk source.root))
      (eased.flatMap (Fileset.requirementFaults source.root (pages disk source.root)))
      (Fileset.faults source.root policy (pages disk source.root)) := by
    -- names and numbers of episodes are judged alike under every policy
    simpa only [Fileset.faults, List.append_nil] using
      (Fileset.requirementFaults_eased relaxed.required).append (.nothing_lost _)
  rw [findings, findings', pardoned, discover_pages]
  exact set_findings.append (.flatMap fun page _ => Fate.faults_relaxed relaxed page _)

/-- A policy that asks for less leaves out of a report what it does not ask for, and nothing
else. -/
theorem report_relaxed [Libraries] (relaxed : policy.Relaxes policy' eased)
    (present : disk.isFolder source.root = true) :
    ∃ report events report' events',
      check disk source policy renderer = .ok (report, events) ∧
        check disk source policy' renderer = .ok (report', events') ∧
        report'.found = report.found ∧ report'.checked = report.checked ∧
        report'.findings.Sublist report.findings ∧
        Interleaves report'.findings (pardoned disk source policy policy' renderer eased)
          report.findings := by
  have returned := check_of_folder disk source policy renderer present
  have returned' := check_of_folder disk source policy' renderer present
  obtain ⟨found, -, checked⟩ := report_of_check returned
  obtain ⟨found', -, checked'⟩ := report_of_check returned'
  have whole := findings_relaxed relaxed returned returned'
  exact ⟨_, _, _, _, returned, returned', found'.trans found.symm, checked'.trans checked.symm,
    whole.sublist, whole⟩

def stricterPolicy : Policy := ⟨["callout"], [], [⟨true, "%/LICENSE.md"⟩, ⟨true, "%/setup.md"⟩]⟩

def lenientPolicy : Policy := ⟨["note", "callout"], [], [⟨false, "%/setup.md"⟩]⟩

def noteRenderer : Renderer := fun _ => .ok ((Tree.Node.ofKind "blockquote").withAttr "class" "note")

theorem report_relaxed_note :
    let eased : List Requirement := [⟨true, "%/LICENSE.md"⟩, ⟨true, "%/setup.md"⟩]
    stricterPolicy.Relaxes lenientPolicy eased ∧ twoPages.isFolder sampleSource.root = true ∧
      pardoned twoPages sampleSource stricterPolicy lenientPolicy noteRenderer eased =
        [⟨none, "Missing required file lesson/LICENSE.md"⟩,
          ⟨none, "Missing required file lesson/setup.md"⟩,
          ⟨some (.whole ⟨"lesson/README.md"⟩), "Unknown or missing blockquote type note"⟩] ∧
      ∃ report events report' events',
        check twoPages sampleSource stricterPolicy noteRenderer = .ok (report, events) ∧
          check twoPages sampleSource lenientPolicy noteRenderer = .ok (report', events') ∧
          report'.found = report.found ∧ report'.checked = report.checked ∧
          report'.findings.Sublist report.findings ∧
          Interleaves report'.findings
            (pardoned twoPages sampleSource stricterPolicy lenientPolicy noteRenderer eased)
            report.findings := by
  intro eased
  have relaxed : stricterPolicy.Relaxes lenientPolicy eased :=
    ⟨by decide, by decide, .delete _ (.makeOptional _ .nil)⟩
  exact ⟨relaxed, by decide, by decide, report_relaxed relaxed (by decide)⟩

end Lesson
end LessonAudit
