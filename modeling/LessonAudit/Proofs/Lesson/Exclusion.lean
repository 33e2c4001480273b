import LessonAudit.Proofs.Disk
import LessonAudit.Proofs.Document
import LessonAudit.Proofs.Fileset
import LessonAudit.Proofs.Inspection
set_option autoImplicit false

namespace LessonAudit

def exclusionTexts : List String :=
  ["Failed to open file: ", "Failed to read file: ", "File exceeds maximum size of ",
    "File is not valid UTF-8", "Unable to render document: "]

def Finding.isExclusion (f : Finding) : Bool :=
  exclusionTexts.any fun text => text.toList.isPrefixOf f.message.toList

def unlikeExclusion (lead : String) : Bool :=
  exclusionTexts.all fun text =>
    !text.toList.isPrefixOf lead.toList && !lead.toList.isPrefixOf text.toList

theorem begins_append (lead rest : String) : lead.toList <+: (lead ++ rest).toList :=
  ⟨rest.toList, (String.toList_append ..).symm⟩

namespace Finding

variable {f : Finding}

theorem isExclusion_of_lead (lead : String) (listed : lead ∈ exclusionTexts)
    (begins : lead.toList <+: f.message.toList) : f.isExclusion = true :=
  List.any_eq_true.2 ⟨lead, listed, List.isPrefixOf_iff_prefix.2 begins⟩

theorem not_exclusion_of_lead (lead : String) (unlike : unlikeExclusion lead = true)
    (begins : lead.toList <+: f.message.toList) : f.isExclusion = false := by
  refine List.any_eq_false.2 fun text listed same => ?_
  have apart := List.all_eq_true.1 unlike text listed
  simp only [Bool.and_eq_true, Bool.not_eq_true', ← Bool.not_eq_true,
    List.isPrefixOf_iff_prefix] at apart same
  rcases List.prefix_or_prefix_of_prefix same begins with within | within
  · exact apart.1 within
  · exact apart.2 within

end Finding

theorem ReadFault.isExclusion (place : Option Location) (fault : ReadFault) :
    Finding.isExclusion ⟨place, fault.message⟩ = true := by
  cases fault with
  | disk fault =>
      cases fault with
      | unopened reason =>
          exact Finding.isExclusion_of_lead "Failed to open file: " (by simp [exclusionTexts])
            (begins_append ..)
      | unread reason =>
          exact Finding.isExclusion_of_lead "Failed to read file: " (by simp [exclusionTexts])
            (begins_append ..)
  | tooLarge limit =>
      exact Finding.isExclusion_of_lead "File exceeds maximum size of " (by simp [exclusionTexts])
        ((begins_append ..).trans (begins_append ..))
  | notText =>
      exact Finding.isExclusion_of_lead "File is not valid UTF-8" (by simp [exclusionTexts])
        (List.prefix_refl _)

theorem Journal.begins_of_mem_fieldFaults {place : Option Location} {name field expected : String}
    {members : Dict Json.Value} {f : Finding}
    (found : f ∈ fieldFaults place name members field expected) :
    name.toList <+: f.message.toList := by
  unfold fieldFaults at found
  split at found
  · obtain rfl := List.mem_singleton.1 found
    simp only [String.append_assoc]
    exact begins_append ..
  · obtain rfl := eq_of_mem_faultUnless found
    simp only [String.append_assoc]
    exact begins_append ..

namespace Document

theorem renderFault_isExclusion [Libraries] (path : Path) (error : RenderError) :
    (renderFault path error).isExclusion = true :=
  Finding.isExclusion_of_lead "Unable to render document: " (by simp [exclusionTexts])
    (begins_append ..)

theorem headerFaults_not_exclusion [Libraries] {path : Path} {raw : Option String} {f : Finding}
    (found : f ∈ headerFaults path raw) : f.isExclusion = false := by
  unfold headerFaults at found
  split at found
  · next fault _ =>
      obtain rfl := List.mem_singleton.1 found
      cases fault with
      | yaml complaint =>
          exact Finding.not_exclusion_of_lead "Unable to parse YAML header: " (by decide)
            (begins_append ..)
      | notMapping kind =>
          exact Finding.not_exclusion_of_lead "YAML header is " (by decide)
            ((begins_append ..).trans (begins_append ..))
  · simp at found

theorem roleFaults_not_exclusion {d : Document} {role : Role} {f : Finding}
    (found : f ∈ d.roleFaults role) : f.isExclusion = false := by
  unfold roleFaults at found
  split at found
  · split at found
    · obtain rfl := List.mem_singleton.1 found
      exact Finding.not_exclusion_of_lead "Missing metadata entirely" (by decide)
        (List.prefix_refl _)
    · cases found
    · exact Finding.not_exclusion_of_lead "metadata" (by decide)
        (Journal.begins_of_mem_fieldFaults found)
  · obtain rfl := Journal.eq_of_mem_faultUnless found
    exact Finding.not_exclusion_of_lead "Unexpected YAML header" (by decide) (List.prefix_refl _)

theorem classFaults_not_exclusion {d : Document} {kind : String} {known : List String}
    {f : Finding} (found : f ∈ d.classFaults kind known) : f.isExclusion = false := by
  obtain ⟨n, -, found⟩ := List.mem_flatMap.1 found
  obtain rfl := Journal.eq_of_mem_faultUnless found
  refine Finding.not_exclusion_of_lead "Unknown or missing " (by decide) ?_
  simp only [String.append_assoc]
  exact begins_append ..

theorem faults_not_exclusion {d : Document} {role : Role} {policy : Policy} {f : Finding}
    (found : f ∈ d.faults role policy) : f.isExclusion = false := by
  simp only [faults, List.mem_append] at found
  rcases found with header | quote | code
  · exact roleFaults_not_exclusion header
  · exact classFaults_not_exclusion quote
  · exact classFaults_not_exclusion code

end Document

theorem Episode.numberFaults_not_exclusion {texts : List String} {f : Finding}
    (found : f ∈ numberFaults texts) : f.isExclusion = false := by
  simp only [numberFaults, List.mem_append] at found
  rcases found with twice | unread | gap
  · obtain rfl := Journal.eq_of_mem_faultUnless twice
    refine Finding.not_exclusion_of_lead "Duplicate episode numbers " (by decide) ?_
    simp only [String.append_assoc]
    exact begins_append ..
  · obtain rfl := Journal.eq_of_mem_faultUnless unread
    exact Finding.not_exclusion_of_lead "Episode numbers are not decimal " (by decide)
      (begins_append ..)
  · obtain rfl := Journal.eq_of_mem_faultUnless gap
    exact Finding.not_exclusion_of_lead "Missing or non-consecutive episode numbers " (by decide)
      (begins_append ..)

theorem Fileset.faults_not_exclusion {root : Path} {policy : Policy} {pages : List Path}
    {f : Finding} (found : f ∈ faults root policy pages) : f.isExclusion = false := by
  simp only [faults, List.mem_append, List.mem_flatMap] at found
  rcases found with ⟨r, -, missing⟩ | ⟨page, -, unnamed⟩ | numbers
  · obtain rfl := Journal.eq_of_mem_faultUnless missing
    exact Finding.not_exclusion_of_lead "Missing required file " (by decide) (begins_append ..)
  · obtain rfl := Journal.eq_of_mem_faultUnless unnamed
    exact Finding.not_exclusion_of_lead "Episode " (by decide)
      ((begins_append ..).trans (begins_append ..))
  · exact Episode.numberFaults_not_exclusion numbers

end LessonAudit
