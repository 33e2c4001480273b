import LessonAudit.Proofs.Fileset
import LessonAudit.Proofs.Inspection
import LessonAudit.Yaml.Usual
set_option autoImplicit false

namespace LessonAudit.Journal

open Json (Value)

inductive Operation where
  | add (location : Option Location) (message : String)
  | check (holds : Bool) (location : Option Location) (message : String)
  | checkField (location : Option Location) (name : String) (members : Dict Value)
      (field expected : String)
  | checkFileset (root : Path) (policy : Policy) (pages : List Path)
  | checkRequired (root : Path) (policy : Policy) (pages : List Path)
  | checkNames (root : Path) (pages : List Path)
  | checkNumbers (texts : List String)
  | parse (path : Path) (text : String) (renderer : Renderer)
  | checkDocument (d : Document) (role : Role) (policy : Policy)
  | checkHeader (d : Document) (role : Role)
  | checkQuotes (d : Document) (policy : Policy)
  | checkCode (d : Document) (policy : Policy)

namespace Operation

variable [Libraries]

def run : Operation → Journal → Journal
  | add location message, j => j.add location message
  | check holds location message, j => j.check holds location message
  | checkField location name members field expected, j =>
      j.checkField location name members field expected
  | checkFileset root policy pages, j => Fileset.check root policy pages j
  | checkRequired root policy pages, j => Fileset.checkRequired root policy pages j
  | checkNames root pages, j => Fileset.checkNames root pages j
  | checkNumbers texts, j => Episode.checkNumbers texts j
  | parse path text renderer, j => (Document.parse path text renderer j).2
  | checkDocument d role policy, j => d.check role policy j
  | checkHeader d role, j => d.checkHeader role j
  | checkQuotes d policy, j => d.checkQuotes policy j
  | checkCode d policy, j => d.checkCode policy j

def runAll (ops : List Operation) (j : Journal) : Journal :=
  ops.foldl (fun j op => op.run j) j

def recorded (op : Operation) : List Finding :=
  (op.run .empty).findings

theorem exists_findings_run (op : Operation) :
    ∃ found, ∀ j : Journal, (op.run j).findings = j.findings ++ found := by
  cases op with
  | add location message => exact ⟨[⟨location, message⟩], fun j => findings_add j ..⟩
  | check holds location message =>
      exact ⟨faultUnless holds location message, fun j => findings_check j ..⟩
  | checkField location name members field expected => exact ⟨_, findings_checkField⟩
  | checkFileset root policy pages => exact ⟨_, Fileset.check_findings root policy pages⟩
  | checkRequired root policy pages => exact ⟨_, Fileset.checkRequired_findings root policy pages⟩
  | checkNames root pages => exact ⟨_, Fileset.checkNames_findings root pages⟩
  | checkNumbers texts => exact ⟨_, Episode.checkNumbers_findings texts⟩
  | parse path text renderer =>
      -- what a page adds depends on its renderer, and not on the journal
      cases rendered : renderer (Header.split text).body with
      | ok tree => exact ⟨_, fun j => Document.parse_findings_of_ok j rendered⟩
      | error error => exact ⟨_, fun j => Document.parse_findings_of_error j rendered⟩
  | checkDocument d role policy => exact ⟨_, Document.check_findings d role policy⟩
  | checkHeader d role => exact ⟨_, Document.checkHeader_findings d role⟩
  | checkQuotes d policy => exact ⟨_, Document.checkClasses_findings d "blockquote" policy.quoteClasses⟩
  | checkCode d policy => exact ⟨_, Document.checkClasses_findings d "codeblock" policy.codeClasses⟩

theorem findings_run (op : Operation) (j : Journal) :
    (op.run j).findings = j.findings ++ op.recorded := by
  obtain ⟨found, adds⟩ := op.exists_findings_run
  have alone : op.recorded = found := by simp [recorded, adds, empty]
  rw [adds, alone]

theorem findings_runAll (ops : List Operation) (j : Journal) :
    (runAll ops j).findings = j.findings ++ ops.flatMap recorded :=
  findings_foldl (fun j op => findings_run op j) ops j

theorem runAll_append (ops more : List Operation) (j : Journal) :
    runAll (ops ++ more) j = runAll more (runAll ops j) := by
  simp [runAll]

end Operation

theorem exitStatus_eq_one_iff (j : Journal) : j.exitStatus = 1 ↔ j.findings ≠ [] := by
  cases found : j.findings <;> simp [exitStatus, Finding.exitStatus, found]

open Operation

def documentChecks (d : Document) (role : Role) (policy : Policy) : List Operation :=
  [.checkHeader d role, .checkQuotes d policy, .checkCode d policy]

theorem findings_check_document [Libraries] (d : Document) (role : Role) (policy : Policy) (j : Journal) :
    (d.check role policy j).findings =
      j.findings ++ (documentChecks d role policy).flatMap recorded := by
  have same : d.check role policy j = runAll (documentChecks d role policy) j := rfl
  rw [same, findings_runAll]

/-- A journal only grows, by what each operation finds for itself. -/
theorem operations_only_append [Libraries] (j : Journal) :
    (∀ op : Operation, (op.run j).findings = j.findings ++ op.recorded) ∧
    (∀ ops, (runAll ops j).findings = j.findings ++ ops.flatMap recorded) ∧
    (∀ d role policy order, order.Perm (documentChecks d role policy) →
      (d.check role policy j).findings =
          j.findings ++ (documentChecks d role policy).flatMap recorded ∧
        (runAll order j).findings = j.findings ++ order.flatMap recorded ∧
        (runAll order j).findings.Perm (d.check role policy j).findings) ∧
    (∀ ops more, (runAll ops j).exitStatus = 1 → (runAll (ops ++ more) j).exitStatus = 1) := by
  refine ⟨fun op => findings_run op j, fun ops => findings_runAll ops j, ?_, ?_⟩
  · intro d role policy order reordered
    have usual := findings_check_document d role policy j
    refine ⟨usual, findings_runAll order j, ?_⟩
    rw [findings_runAll, usual]
    exact (reordered.flatMap_right recorded).append_left j.findings
  · intro ops more failed
    rw [exitStatus_eq_one_iff] at failed ⊢
    rw [runAll_append, findings_runAll]
    exact List.append_ne_nil_of_left_ne_nil failed _

def spoiledReadme : Document where
  path := ⟨"l/README.md"⟩
  metadata := some [("layout", .text "page")]
  headerLines := 2
  tree := ((Tree.Node.ofKind "blockquote").withAttr "class" "spoiler").withLocation 3

theorem operations_only_append_readme :
    let quotesFirst : List Operation :=
      [.checkQuotes spoiledReadme .standard, .checkCode spoiledReadme .standard,
        .checkHeader spoiledReadme .nonTemplated]
    let j := ofFindings [⟨none, "Missing required file l/index.md"⟩]
    quotesFirst.Perm (documentChecks spoiledReadme .nonTemplated .standard) ∧
      (runAll quotesFirst j).findings =
        [⟨none, "Missing required file l/index.md"⟩,
          ⟨some ⟨⟨"l/README.md"⟩, some 5⟩, "Unknown or missing blockquote type spoiler"⟩,
          ⟨some ⟨⟨"l/README.md"⟩, none⟩, "Unexpected YAML header"⟩] ∧
      (runAll quotesFirst j).findings.Perm
        (spoiledReadme.check .nonTemplated .standard j).findings ∧
      (runAll quotesFirst .empty).exitStatus = 1 ∧
      (runAll (quotesFirst ++ [.check true none "in order"]) .empty).exitStatus = 1 := by
  intro quotesFirst j
  have reordered : quotesFirst.Perm (documentChecks spoiledReadme .nonTemplated .standard) :=
    (List.perm_append_comm :
      ([Operation.checkQuotes spoiledReadme .standard, .checkCode spoiledReadme .standard] ++
        [Operation.checkHeader spoiledReadme .nonTemplated]).Perm _)
  obtain ⟨-, -, any_order, -⟩ := operations_only_append j
  obtain ⟨-, -, permuted⟩ := any_order spoiledReadme .nonTemplated .standard quotesFirst reordered
  obtain ⟨-, -, -, lasting⟩ := operations_only_append .empty
  exact ⟨reordered, by decide, permuted, by decide, lasting quotesFirst _ (by decide)⟩

end LessonAudit.Journal
