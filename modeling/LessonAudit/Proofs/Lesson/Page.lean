import LessonAudit.Lesson
import LessonAudit.Proofs.Disk
import LessonAudit.Proofs.Document
import LessonAudit.Proofs.Inspection
set_option autoImplicit false

namespace LessonAudit.Lesson

open LessonAudit.Tree (Node)

inductive Fate where
  | unread (fault : ReadFault)
  | unrendered (text : String) (error : RenderError)
  | unplaced (text : String)
  | checked (text : String) (tree : Node) (role : Role)

def fate (source : Source) (renderer : Renderer) (path : Path)
    (contents : Except DiskFault (List UInt8)) : Fate :=
  match (Disk.holding contents).readText path source.limit with
  | .error fault => .unread fault
  | .ok text =>
      match renderer (Header.split text).body with
      | .error error => .unrendered text error
      | .ok tree =>
          match Role.of? source.root path with
          | none => .unplaced text
          | some role => .checked text tree role

namespace Fate

def faults [Libraries] (policy : Policy) (path : Path) : Fate → List Finding
  | unread fault => [⟨some (.whole path), fault.message⟩]
  | unrendered text error =>
      Document.headerFaults path (Header.split text).raw ++ [Document.renderFault path error]
  | unplaced text => Document.headerFaults path (Header.split text).raw
  | checked text tree role =>
      Document.headerFaults path (Header.split text).raw ++
        (Document.ofText path text tree).faults role policy

def isChecked : Fate → Bool
  | checked .. => true
  | _ => false

theorem faults_about [Libraries] (reached : Fate) {policy : Policy} {path : Path} {f : Finding}
    (found : f ∈ reached.faults policy path) : f.IsAbout path := by
  cases reached with
  | unread fault =>
      obtain rfl := List.mem_singleton.1 found
      exact ⟨none, rfl⟩
  | unrendered text error =>
      rcases List.mem_append.1 found with header | render
      · exact Document.headerFaults_about header
      · obtain rfl := List.mem_singleton.1 render
        exact ⟨none, rfl⟩
  | unplaced text => exact Document.headerFaults_about found
  | checked text tree role =>
      rcases List.mem_append.1 found with header | inside
      · exact Document.headerFaults_about header
      · exact Document.faults_about inside

end Fate

section

variable [Libraries] (disk : Disk) (source : Source) (policy : Policy) (renderer : Renderer)

theorem checkPage_adds (path : Path) (p : Progress) :
    let reached := fate source renderer path (disk.bytes path)
    let next := checkPage disk source policy renderer p path
    next.journal.findings = p.journal.findings ++ reached.faults policy path ∧
      next.checked = p.checked + reached.isChecked.toNat := by
  dsimp only
  unfold checkPage fate
  -- of the disk only the bytes of this file are read
  rw [← Disk.readText_eq_holding]
  cases disk.readText path source.limit with
  | error fault => exact ⟨rfl, rfl⟩
  | ok text =>
      dsimp only
      cases parsed : Document.parse path text renderer p.journal with
      | mk document j =>
          cases rendered : renderer (Header.split text).body with
          | error error =>
              have absent : (Document.parse path text renderer p.journal).1 = none :=
                Document.parse_document_of_error p.journal rendered
              have found : (Document.parse path text renderer p.journal).2.findings = _ :=
                Document.parse_findings_of_error p.journal rendered
              rw [parsed] at absent found
              cases absent
              exact ⟨found, rfl⟩
          | ok tree =>
              have present : (Document.parse path text renderer p.journal).1 = some _ :=
                Document.parse_document_of_ok p.journal rendered
              have found : (Document.parse path text renderer p.journal).2.findings = _ :=
                Document.parse_findings_of_ok p.journal rendered
              rw [parsed] at present found
              cases present
              cases Role.of? source.root path with
              | none => exact ⟨found, rfl⟩
              | some role =>
                  refine ⟨?_, rfl⟩
                  simp only [Document.check_findings, Journal.findings_log, Fate.faults]
                  rw [found, List.append_assoc]

theorem checkPages_adds (pages : List Path) (p : Progress) :
    let reached page := fate source renderer page (disk.bytes page)
    let final := pages.foldl (checkPage disk source policy renderer) p
    final.journal.findings =
        p.journal.findings ++ pages.flatMap (fun page => (reached page).faults policy page) ∧
      final.checked = p.checked + pages.countP fun page => (reached page).isChecked := by
  induction pages generalizing p with
  | nil => simp
  | cons page more ih =>
      have here := checkPage_adds disk source policy renderer page p
      have later := ih (checkPage disk source policy renderer p page)
      dsimp only at here later ⊢
      constructor
      · rw [List.foldl_cons, later.1, here.1, List.flatMap_cons, List.append_assoc]
      · rw [List.foldl_cons, later.2, here.2, List.countP_cons]
        cases (fate source renderer page (disk.bytes page)).isChecked with
        | false => simp
        | true => simp [Nat.add_assoc, Nat.add_comm]

end

end LessonAudit.Lesson
