import LessonAudit.Inspection
import LessonAudit.Proofs.Document
import LessonAudit.Proofs.Journal
import LessonAudit.Proofs.Tree.Search
set_option autoImplicit false

namespace LessonAudit

open Json (Value)
open LessonAudit.Tree (Node Pattern)

namespace Role

inductive Asks : Role → String → Prop
  | index : Asks index "lesson_homepage"
  | reference : Asks reference "reference"
  | generic : Asks generic "page"

def Accepts : Role → Option (Dict Value) → Prop
  | nonTemplated, metadata => metadata = none
  | index, metadata =>
      ∃ members, metadata = some members ∧ members.get? "layout" = some (.text "lesson_homepage")
  | reference, metadata =>
      ∃ members, metadata = some members ∧ members.get? "layout" = some (.text "reference")
  | episode, metadata => ∃ members, metadata = some members
  | generic, metadata =>
      ∃ members, metadata = some members ∧ members.get? "layout" = some (.text "page")

theorem needsHeader_iff {role : Role} : role.needsHeader = true ↔ role ≠ nonTemplated := by
  cases role <;> decide

theorem layout?_eq_some_iff {role : Role} {layout : String} :
    role.layout? = some layout ↔ role.Asks layout := by
  constructor
  · intro asked
    cases role <;> cases asked <;> constructor
  · rintro ⟨⟩ <;> rfl

theorem accepts_iff {role : Role} {metadata : Option (Dict Value)} :
    role.Accepts metadata ↔
      if role.needsHeader then
        ∃ members, metadata = some members ∧
          ∀ layout, role.layout? = some layout → members.get? "layout" = some (.text layout)
      else metadata = none := by
  cases role <;> simp [Accepts, needsHeader, layout?]

end Role

namespace Tree.Node

def HasClass (n : Node) (name : String) : Prop :=
  ∃ attr, n.attr = some attr ∧ attr.get? "class" = some name

def OnLine (n : Node) (line : Nat) : Prop :=
  ∃ options, n.options = some options ∧ options.get? "location" = some (.number (.natural line))

def Classed (tree : Node) (kind : String) (known : List String) : Prop :=
  ∀ n, Node.Within n tree → n.kind = kind → ∃ name, n.HasClass name ∧ name ∈ known

theorem hasClass_iff {n : Node} {name : String} :
    n.HasClass name ↔ n.attrValue "class" = some name := by
  rw [HasClass, attrValue, Option.bind_eq_some_iff]

theorem natural?_eq_some_iff {v : Value} {line : Nat} :
    natural? v = some line ↔ v = .number (.natural line) := by
  unfold natural?
  split <;> simp_all

theorem onLine_iff {n : Node} {line : Nat} : n.OnLine line ↔ n.location = some line := by
  simp only [OnLine, location, locationKey, Option.bind_eq_some_iff, natural?_eq_some_iff,
    exists_eq_right]

instance (n : Node) (name : String) : Decidable (n.HasClass name) :=
  decidable_of_iff _ hasClass_iff.symm

end Tree.Node

namespace Document

def roleFaults (d : Document) (role : Role) : List Finding :=
  let place := some (Location.whole d.path)
  if role.needsHeader then
    match d.metadata, role.layout? with
    | none, _ => [⟨place, "Missing metadata entirely"⟩]
    | some _, none => []
    | some members, some layout => Journal.fieldFaults place "metadata" members "layout" layout
  else Journal.faultUnless d.metadata.isNone place "Unexpected YAML header"

theorem checkHeader_findings (d : Document) (role : Role) (j : Journal) :
    (d.checkHeader role j).findings = j.findings ++ d.roleFaults role := by
  unfold checkHeader roleFaults
  cases needed : role.needsHeader with
  | false => exact Journal.findings_check ..
  | true =>
      cases d.metadata with
      | none => rfl
      | some members =>
          cases role.layout? with
          | none => simp
          | some layout => simp [Journal.findings_checkField]

theorem roleFaults_eq_nil_iff {d : Document} {role : Role} :
    d.roleFaults role = [] ↔ role.Accepts d.metadata := by
  rw [Role.accepts_iff]
  unfold roleFaults
  cases role.needsHeader with
  | false => simp [Journal.faultUnless_eq_nil_iff]
  | true =>
      cases d.metadata with
      | none => simp
      | some members =>
          cases role.layout? with
          | none => simp
          | some layout => simp [Journal.fieldFaults_eq_nil_iff]

def classFault (d : Document) (kind : String) (known : List String) (n : Node) : List Finding :=
  let found := n.attrValue "class"
  Journal.faultUnless (found.any fun name => known.contains name) (some (d.locationOf n))
    ("Unknown or missing " ++ kind ++ " type " ++ found.getD "(none)")

def classFaults (d : Document) (kind : String) (known : List String) : List Finding :=
  (d.tree.findAll (Pattern.ofKind kind)).flatMap (d.classFault kind known)

theorem checkClasses_findings (d : Document) (kind : String) (known : List String) (j : Journal) :
    (d.checkClasses kind known j).findings = j.findings ++ d.classFaults kind known := by
  apply Journal.findings_foldl
  intro j n
  exact Journal.findings_check ..

theorem classFault_eq_nil_iff {d : Document} {kind : String} {known : List String} {n : Node} :
    d.classFault kind known n = [] ↔ ∃ name, n.HasClass name ∧ name ∈ known := by
  simp only [classFault, Journal.faultUnless_eq_nil_iff, Node.hasClass_iff]
  cases n.attrValue "class" with
  | none => simp
  | some name => simp

theorem classFaults_eq_nil_iff {d : Document} {kind : String} {known : List String} :
    d.classFaults kind known = [] ↔ d.tree.Classed kind known := by
  simp only [classFaults, List.flatMap_eq_nil_iff, classFault_eq_nil_iff, Node.mem_findAll_iff,
    Node.admits_ofKind, beq_iff_eq, Node.Classed, and_imp]

def faults (d : Document) (role : Role) (policy : Policy) : List Finding :=
  d.roleFaults role ++
    (d.classFaults "blockquote" policy.quoteClasses ++ d.classFaults "codeblock" policy.codeClasses)

theorem check_findings (d : Document) (role : Role) (policy : Policy) (j : Journal) :
    (d.check role policy j).findings = j.findings ++ d.faults role policy := by
  simp only [check, checkCode, checkQuotes, faults, checkClasses_findings, checkHeader_findings,
    List.append_assoc]

theorem roleFaults_about {d : Document} {role : Role} {f : Finding}
    (found : f ∈ d.roleFaults role) : f.IsAbout d.path := by
  unfold roleFaults at found
  split at found
  · split at found
    · obtain rfl := List.mem_singleton.1 found
      exact ⟨none, rfl⟩
    · cases found
    · exact ⟨none, Journal.location_of_mem_fieldFaults found⟩
  · obtain rfl := Journal.eq_of_mem_faultUnless found
    exact ⟨none, rfl⟩

theorem locationOf_about (d : Document) (n : Node) : ∃ line, d.locationOf n = ⟨d.path, line⟩ := by
  unfold locationOf
  cases n.location with
  | none => exact ⟨none, rfl⟩
  | some line => exact ⟨_, rfl⟩

theorem classFaults_about {d : Document} {kind : String} {known : List String} {f : Finding}
    (found : f ∈ d.classFaults kind known) : f.IsAbout d.path := by
  obtain ⟨n, -, found⟩ := List.mem_flatMap.1 found
  obtain rfl := Journal.eq_of_mem_faultUnless found
  obtain ⟨line, place⟩ := d.locationOf_about n
  exact ⟨line, congrArg some place⟩

theorem faults_about {d : Document} {role : Role} {policy : Policy} {f : Finding}
    (found : f ∈ d.faults role policy) : f.IsAbout d.path := by
  simp only [faults, List.mem_append] at found
  rcases found with header | quote | code
  · exact roleFaults_about header
  · exact classFaults_about quote
  · exact classFaults_about code

theorem faults_eq_nil_iff {d : Document} {role : Role} {policy : Policy} :
    d.faults role policy = [] ↔
      role.Accepts d.metadata ∧ d.tree.Classed "blockquote" policy.quoteClasses ∧
        d.tree.Classed "codeblock" policy.codeClasses := by
  simp only [faults, List.append_eq_nil_iff, roleFaults_eq_nil_iff, classFaults_eq_nil_iff]

end Document
end LessonAudit
