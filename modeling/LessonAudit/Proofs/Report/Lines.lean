import LessonAudit.Document
import LessonAudit.Proofs.Text.Lines
import LessonAudit.Yaml.Usual
set_option autoImplicit false

namespace LessonAudit

open Text (OneLine)

theorem Finding.toList_lines (findings : List Finding) :
    (lines findings).toList = Text.terminated '\n' (findings.map fun f => f.text.toList) := by
  simp [lines, Text.terminated, String.toList_join, List.flatMap_map]

theorem Finding.lines_eq_empty_iff {findings : List Finding} :
    lines findings = "" ↔ findings = [] := by
  rw [← String.toList_inj, toList_lines]
  cases findings <;> simp

namespace Journal

def reportLines (j : Journal) : List (List Char) :=
  Text.lines j.report.1.toList

def OneLined (j : Journal) : Prop :=
  ∀ f ∈ j.findings, OneLine f.text

variable {j other : Journal}

theorem reportLines_eq (j : Journal) :
    j.reportLines = (j.findings.map fun f => f.text.toList).flatMap (Text.pieces '\n') := by
  rw [reportLines, report, Finding.toList_lines, Text.lines_terminated]

theorem length_reportLines (j : Journal) :
    j.reportLines.length =
      j.findings.length + (j.findings.map fun f => f.text.toList.count '\n').sum := by
  rw [reportLines_eq, Text.length_flatMap_pieces, List.length_map, List.map_map]
  rfl

theorem reportLines_eq_iff :
    j.reportLines = (j.findings.map fun f => f.text.toList) ↔ j.OneLined := by
  rw [reportLines_eq, Text.flatMap_pieces_eq_iff]
  simp [OneLined, OneLine]

theorem length_reportLines_eq_iff : j.reportLines.length = j.findings.length ↔ j.OneLined := by
  have counted :=
    @Text.length_flatMap_pieces_eq_iff '\n' (j.findings.map fun f => f.text.toList)
  rw [List.length_map, ← reportLines_eq] at counted
  rw [counted]
  simp [OneLined, OneLine]

def retold (j : Journal) : Journal :=
  .ofFindings (j.reportLines.map fun line => ⟨none, String.ofList line⟩)

theorem texts_retold (j : Journal) :
    (j.retold.findings.map fun f => f.text.toList) = j.reportLines := by
  simp [retold, ofFindings, Finding.text, Function.comp_def]

theorem report_retold (j : Journal) : j.retold.report.1 = j.report.1 := by
  rw [← String.toList_inj, report, Finding.toList_lines, texts_retold, reportLines, report,
    Finding.toList_lines, Text.terminated_lines]

theorem oneLined_retold (j : Journal) : j.retold.OneLined := by
  intro f member
  have line : f.text.toList ∈ j.reportLines := by
    rw [← texts_retold]
    exact List.mem_map_of_mem member
  rw [reportLines_eq] at line
  obtain ⟨whole, -, piece⟩ := List.mem_flatMap.1 line
  exact Text.not_mem_of_mem_pieces '\n' whole _ piece

theorem texts_eq_of_report_eq (one_lined : j.OneLined) (other_one_lined : other.OneLined)
    (same : other.report.1 = j.report.1) :
    other.findings.map Finding.text = j.findings.map Finding.text := by
  have texts : (other.findings.map fun f => f.text.toList) =
      j.findings.map fun f => f.text.toList := by
    rw [← reportLines_eq_iff.2 one_lined, ← reportLines_eq_iff.2 other_one_lined, reportLines,
      reportLines, same]
  have as_texts := congrArg (List.map String.ofList) texts
  simpa [Function.comp_def] using as_texts

/-- A report has a line for each finding and one more for each line break in their texts. Its lines
are the texts of the findings, and no other texts without line breaks make the same report, exactly
if no text holds a line break. -/
theorem report_by_line (j : Journal) :
    j.reportLines.length =
        j.findings.length + (j.findings.map fun f => f.text.toList.count '\n').sum ∧
      (j.reportLines = (j.findings.map fun f => f.text.toList) ↔ j.OneLined) ∧
      (j.reportLines.length = j.findings.length ↔ j.OneLined) ∧
      ((∀ other : Journal, other.OneLined → other.report.1 = j.report.1 →
        other.findings.map Finding.text = j.findings.map Finding.text) ↔ j.OneLined) := by
  refine ⟨j.length_reportLines, reportLines_eq_iff, length_reportLines_eq_iff, ?_, ?_⟩
  · intro determined
    have texts := determined j.retold j.oneLined_retold j.report_retold
    have lines_eq : j.reportLines = j.findings.map fun f => f.text.toList := by
      have as_chars := congrArg (List.map String.toList) texts
      rw [← texts_retold]
      simpa [Function.comp_def] using as_chars
    exact reportLines_eq_iff.1 lines_eq
  · intro one_lined other other_one_lined same
    exact texts_eq_of_report_eq one_lined other_one_lined same

def twoLined : Journal :=
  (Document.parse ⟨"l/README.md"⟩ "x"
    (fun _ => .error (.failed "exit status: 1" "no tree\nsee above")) .empty).2

theorem two_lines_for_one_finding :
    twoLined.findings.length = 1 ∧ twoLined.reportLines.length = 2 ∧
      ¬ (twoLined.reportLines = twoLined.findings.map fun f => f.text.toList) := by
  decide

end Journal
end LessonAudit
