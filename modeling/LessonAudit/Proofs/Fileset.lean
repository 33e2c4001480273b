import LessonAudit.Fileset
import LessonAudit.Proofs.Episode.Name
import LessonAudit.Proofs.Episode.Numbering
import Mathlib.Data.List.Forall2
set_option autoImplicit false

namespace LessonAudit.Fileset

open Episode (Numbered)

def requirementFaults (root : Path) (pages : List Path) (r : Requirement) : List Finding :=
  let path := r.resolve root
  Journal.faultUnless (pages.any path.same || !r.mandatory) none
    ("Missing required file " ++ path.text)

def nameFaults (page : Path) : List Finding :=
  Journal.faultUnless (Episode.number? page).isSome none
    ("Episode " ++ page.text ++ " has badly-formatted filename")

def faults (root : Path) (policy : Policy) (pages : List Path) : List Finding :=
  policy.required.flatMap (requirementFaults root pages) ++
    ((episodes root pages).flatMap nameFaults ++ Episode.numberFaults (numbers root pages))

theorem checkRequirement_findings (root : Path) (pages : List Path) (j : Journal)
    (r : Requirement) :
    (checkRequirement root pages j r).findings =
      j.findings ++ requirementFaults root pages r := by
  simp only [checkRequirement, requirementFaults, Journal.faultUnless]
  cases pages.any (r.resolve root).same <;> cases r.mandatory <;> simp

theorem checkRequired_findings (root : Path) (policy : Policy) (pages : List Path) (j : Journal) :
    (checkRequired root policy pages j).findings =
      j.findings ++ policy.required.flatMap (requirementFaults root pages) :=
  Journal.findings_foldl (checkRequirement_findings root pages) policy.required j

theorem checkNames_findings (root : Path) (pages : List Path) (j : Journal) :
    (checkNames root pages j).findings =
      j.findings ++ (episodes root pages).flatMap nameFaults := by
  apply Journal.findings_foldl
  intro j page
  exact Journal.findings_check ..

theorem check_findings (root : Path) (policy : Policy) (pages : List Path) (j : Journal) :
    (check root policy pages j).findings = j.findings ++ faults root policy pages := by
  simp only [check, faults, Episode.checkNumbers_findings, checkNames_findings,
    checkRequired_findings, List.append_assoc]

def Present (root : Path) (pages : List Path) (r : Requirement) : Prop :=
  ∃ page ∈ pages, (r.resolve root).parts = page.parts

def NumberedBy (root : Path) (pages : List Path) (texts : List String) : Prop :=
  List.Forall₂ (fun page text => Numbered page.slashed text.toList) (episodes root pages) texts

theorem requirementFaults_eq_nil_iff {root : Path} {pages : List Path} {r : Requirement} :
    requirementFaults root pages r = [] ↔ (r.mandatory = true → Present root pages r) := by
  have present_iff : pages.any (r.resolve root).same = true ↔ Present root pages r := by
    simp only [List.any_eq_true, Path.same, beq_iff_eq, Present]
  simp only [requirementFaults, Journal.faultUnless_eq_nil_iff, Bool.or_eq_true, present_iff]
  cases r.mandatory <;> simp

theorem nameFaults_eq_nil_iff {page : Path} :
    nameFaults page = [] ↔ ∃ text, Episode.number? page = some text := by
  rw [nameFaults, Journal.faultUnless_eq_nil_iff, Option.isSome_iff_exists]

theorem forall₂_some_iff {α β : Type} {f : α → Option β} {items : List α} {results : List β} :
    List.Forall₂ (fun item result => f item = some result) items results ↔
      (∀ item ∈ items, ∃ result, f item = some result) ∧ items.filterMap f = results := by
  induction items generalizing results with
  | nil => simp [eq_comm]
  | cons item more ih =>
      rw [List.forall₂_cons_left_iff]
      constructor
      · rintro ⟨result, rest, found, pairs, rfl⟩
        obtain ⟨all, rfl⟩ := ih.1 pairs
        simpa [found] using all
      · rintro ⟨all, rfl⟩
        obtain ⟨result, found⟩ := all item (by simp)
        refine ⟨result, more.filterMap f, found, ih.2 ⟨?_, rfl⟩, by simp [found]⟩
        exact fun other member => all other (by simp [member])

theorem numberedBy_iff {root : Path} {pages : List Path} {texts : List String} :
    NumberedBy root pages texts ↔
      (episodes root pages).flatMap nameFaults = [] ∧ numbers root pages = texts := by
  simp only [NumberedBy, ← Episode.number?_eq_some_iff, forall₂_some_iff,
    List.flatMap_eq_nil_iff, nameFaults_eq_nil_iff, numbers]

theorem twoDigits_of_number? {page : Path} {text : String}
    (found : Episode.number? page = some text) : Episode.TwoDigits text := by
  obtain ⟨-, name, -, -, named⟩ := Episode.number?_eq_some_iff.1 found
  exact ⟨named.two, named.digits⟩

theorem twoDigits_of_mem_numbers {root : Path} {pages : List Path} {text : String}
    (member : text ∈ numbers root pages) : Episode.TwoDigits text := by
  obtain ⟨page, -, found⟩ := List.mem_filterMap.1 member
  exact twoDigits_of_number? found

theorem NumberedBy.two_digits {root : Path} {pages : List Path} {texts : List String}
    (numbered : NumberedBy root pages texts) : ∀ t ∈ texts, Episode.TwoDigits t := by
  obtain ⟨-, rfl⟩ := numberedBy_iff.1 numbered
  exact fun t => twoDigits_of_mem_numbers

theorem faults_eq_nil_iff {root : Path} {policy : Policy} {pages : List Path} :
    faults root policy pages = [] ↔
      (∀ r ∈ policy.required, r.mandatory = true → Present root pages r) ∧
        ∃ texts count, NumberedBy root pages texts ∧ texts.Perm (Episode.numerals count) := by
  have required_iff : policy.required.flatMap (requirementFaults root pages) = [] ↔
      ∀ r ∈ policy.required, r.mandatory = true → Present root pages r := by
    simp only [List.flatMap_eq_nil_iff, requirementFaults_eq_nil_iff]
  rw [faults, List.append_eq_nil_iff, required_iff, List.append_eq_nil_iff]
  refine and_congr_right fun _ => ?_
  constructor
  · rintro ⟨named, silent⟩
    have numbered : NumberedBy root pages (numbers root pages) := numberedBy_iff.2 ⟨named, rfl⟩
    obtain ⟨count, perm⟩ := (Episode.numberFaults_eq_nil_iff_perm numbered.two_digits).1 silent
    exact ⟨_, count, numbered, perm⟩
  · rintro ⟨texts, count, numbered, perm⟩
    have two := numbered.two_digits
    obtain ⟨named, rfl⟩ := numberedBy_iff.1 numbered
    exact ⟨named, (Episode.numberFaults_eq_nil_iff_perm two).2 ⟨count, perm⟩⟩

end LessonAudit.Fileset
