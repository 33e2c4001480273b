import LessonAudit.Proofs.Fileset
import LessonAudit.Proofs.Path.Relative
import LessonAudit.Proofs.Path.Shown
set_option autoImplicit false

namespace LessonAudit

open Text.Utf8 (encode)

namespace Requirement

variable {r : Requirement} {root : Path} {rel : String}

theorem parts_resolve (written : root.bytes ≠ []) (template_eq : r.template = "%/" ++ rel)
    (rootless : '%' ∉ rel.toList) :
    (r.resolve root).parts = (Path.mk (Path.shown root.bytes)).parts ++
      (Path.solid (Text.pieces Path.slash (encode rel))).map Path.partOf := by
  have chars_eq : r.template.toList = '%' :: '/' :: rel.toList := by simp [template_eq]
  have shown_eq : encode root.text = (Path.mk (Path.shown root.bytes)).bytes := rfl
  have bytes_eq := bytes_resolve chars_eq rootless root
  rw [String.ofList_toList, shown_eq] at bytes_eq
  exact Path.parts_append (mt Path.shown_eq_nil_iff.1 written) bytes_eq

theorem resolve_parts_iff (written : root.bytes ≠ []) (template_eq : r.template = "%/" ++ rel)
    (rootless : '%' ∉ rel.toList) (relative : (Path.mk rel).isAbsolute = false) :
    (r.resolve root).parts = (root.join rel).parts ↔ ∃ text, root.bytes = encode text := by
  have is_text : Path.shown root.bytes = root.bytes ↔ ∃ text, root.bytes = encode text := by
    exact Text.Utf8.encode_decodeLossy_iff.trans Path.isText_iff
  rw [parts_resolve written template_eq rootless, Path.parts_join_of_relative written relative,
    List.append_cancel_right_eq, Path.parts_shown_iff, is_text]

end Requirement

namespace Fileset

variable {root : Path} {policy : Policy} {pages others : List Path} {j : Journal}

instance (root : Path) (pages : List Path) (r : Requirement) : Decidable (Present root pages r) :=
  inferInstanceAs (Decidable (∃ page ∈ pages, _))

def missing (root : Path) (policy : Policy) (pages : List Path) (mandatory : Bool) :
    List Requirement :=
  policy.required.filter fun r => r.mandatory = mandatory ∧ ¬ Present root pages r

def missingFinding (root : Path) (r : Requirement) : Finding :=
  ⟨none, "Missing required file " ++ (r.resolve root).text⟩

def missingEvent (root : Path) (r : Requirement) : Event :=
  .optionalMissing (r.resolve root)

theorem checkRequirement_of_present {r : Requirement} (present : Present root pages r) :
    checkRequirement root pages j r = j := by
  obtain ⟨page, member, same⟩ := present
  have found : pages.any (r.resolve root).same = true :=
    List.any_eq_true.2 ⟨page, member, Path.same_iff.2 same⟩
  simp [checkRequirement, found]

theorem checkRequirement_of_missing {r : Requirement} (missing : ¬ Present root pages r) :
    checkRequirement root pages j r =
      if r.mandatory then
        { j with findings := j.findings ++ [missingFinding root r] }
      else { j with events := j.events ++ [missingEvent root r] } := by
  have absent : pages.any (r.resolve root).same = false := by
    rw [List.any_eq_false]
    exact fun page member same => missing ⟨page, member, Path.same_iff.1 same⟩
  simp [checkRequirement, absent, missingFinding, missingEvent, Journal.add, Journal.log]

theorem checkRequired_eq (root : Path) (policy : Policy) (pages : List Path) (j : Journal) :
    checkRequired root policy pages j =
      { findings := j.findings ++ (missing root policy pages true).map (missingFinding root)
        events := j.events ++ (missing root policy pages false).map (missingEvent root) } := by
  unfold checkRequired missing
  induction policy.required generalizing j with
  | nil => simp
  | cons r more ih =>
      rw [List.foldl_cons, ih]
      by_cases present : Present root pages r
      · simp [checkRequirement_of_present, present]
      · cases mandatory : r.mandatory <;>
          simp [checkRequirement_of_missing, present, mandatory]

theorem Present.of_places {r : Requirement} (present : Present root pages r)
    (covered : pages.map Path.parts ⊆ others.map Path.parts) : Present root others r := by
  obtain ⟨page, member, same⟩ := present
  obtain ⟨other, other_member, place⟩ := List.mem_map.1 (covered (List.mem_map_of_mem member))
  exact ⟨other, other_member, same.trans place.symm⟩

theorem missing_sublist (covered : pages.map Path.parts ⊆ others.map Path.parts)
    (mandatory : Bool) :
    (missing root policy others mandatory).Sublist (missing root policy pages mandatory) := by
  refine List.monotone_filter_right _ fun r absent => ?_
  rw [decide_eq_true_eq] at absent ⊢
  exact ⟨absent.1, fun present => absent.2 (present.of_places covered)⟩

/-- The check of the required pages, entry by entry. An entry asks for the page that its template names
below the root exactly if the path of the root is a text. -/
theorem required_exact (root : Path) (policy : Policy) (pages : List Path) (j : Journal) :
    checkRequired root policy pages j =
      { findings := j.findings ++ (missing root policy pages true).map (missingFinding root)
        events := j.events ++ (missing root policy pages false).map (missingEvent root) } ∧
    (∀ r, (missingEvent root r).level = .warn) ∧
    (∀ others, pages.map Path.parts ⊆ others.map Path.parts →
      (checkRequired root policy others .empty).findings.Sublist
          (checkRequired root policy pages .empty).findings ∧
        (checkRequired root policy others .empty).events.Sublist
          (checkRequired root policy pages .empty).events ∧
        (others.map Path.parts ⊆ pages.map Path.parts →
          checkRequired root policy others j = checkRequired root policy pages j)) ∧
    (root.bytes ≠ [] → ∀ (r : Requirement) (rel : String), r.template = "%/" ++ rel →
      '%' ∉ rel.toList → (Path.mk rel).isAbsolute = false →
        ((r.resolve root).parts = (root.join rel).parts ↔ ∃ text, root.bytes = encode text)) := by
  refine ⟨checkRequired_eq root policy pages j, fun r => rfl, fun others covered => ?_, ?_⟩
  · simp only [checkRequired_eq]
    refine ⟨((missing_sublist covered true).map _).append_left _,
      ((missing_sublist covered false).map _).append_left _, fun back => ?_⟩
    have same (mandatory : Bool) :
        missing root policy others mandatory = missing root policy pages mandatory :=
      (missing_sublist covered mandatory).antisymm (missing_sublist back mandatory)
    rw [same, same]
  · exact fun written r rel => Requirement.resolve_parts_iff written

theorem required_exact_percent_root :
    let root : Path := ⟨"50%/."⟩
    let r : Requirement := ⟨true, "%/./index.md"⟩
    let policy : Policy := ⟨[], [], [⟨true, "%/a.md"⟩, r, ⟨false, "%/b.md"⟩]⟩
    let pages : List Path := [⟨"50%/index.md"⟩]
    let others : List Path := [⟨"50%//index.md"⟩, ⟨"50%/b.md"⟩, ⟨"50%/index.md"⟩]
    root.bytes ≠ [] ∧ r.template = "%/" ++ "./index.md" ∧ '%' ∉ "./index.md".toList ∧
      (Path.mk "./index.md").isAbsolute = false ∧
      (r.resolve root).parts = (root.join "./index.md").parts ∧
      (checkRequired root policy pages .empty).findings =
        [⟨none, "Missing required file 50%/./a.md"⟩] ∧
      (checkRequired root policy pages .empty).events = [.optionalMissing ⟨"50%/./b.md"⟩] ∧
      pages.map Path.parts ⊆ others.map Path.parts ∧
      (checkRequired root policy others .empty).findings.Sublist
        (checkRequired root policy pages .empty).findings := by
  intro root r policy pages others
  obtain ⟨-, -, more, resolved⟩ := required_exact root policy pages .empty
  have covered : pages.map Path.parts ⊆ others.map Path.parts := by decide
  have same := resolved (by decide) r "./index.md" (by decide) (by decide) (by decide)
  exact ⟨by decide, by decide, by decide, by decide, same.2 ⟨"50%/.", rfl⟩, by decide, by decide,
    covered, (more others covered).1⟩

-- A root whose name is no text, and a page of it that is there.
theorem malformed_root_misses_page :
    let root : Path := ⟨[0x62, 0xFF]⟩
    let r : Requirement := ⟨true, "%/LICENSE.md"⟩
    let pages := [root.join "LICENSE.md"]
    (r.resolve root).parts ≠ (root.join "LICENSE.md").parts ∧
      (checkRequired root ⟨[], [], [r]⟩ pages .empty).findings =
        [⟨none, "Missing required file b\uFFFD/LICENSE.md"⟩] := by
  decide

end Fileset
end LessonAudit
