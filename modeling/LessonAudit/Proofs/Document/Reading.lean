import LessonAudit.Proofs.Inspection
import LessonAudit.Yaml.Usual
set_option autoImplicit false

namespace LessonAudit

open Json (Value)

def Finding.ofFile (path : Path) (message : String) : Finding :=
  ⟨some (.whole path), message⟩

def Journal.more (j : Journal) (findings : List Finding) (events : List Event) : Journal :=
  ⟨j.findings ++ findings, j.events ++ events⟩

namespace Header

def Solid (raw : Option String) (block : String) : Prop :=
  raw = some block ∧ block.toList.all Text.isBlank = false

variable [Libraries]

def Maps (raw : Option String) (members : Dict Value) : Prop :=
  ∃ block, Solid raw block ∧ Libraries.yaml block = .ok (.record members)

inductive Blamed (raw : Option String) : String → Prop
  | unreadable {block complaint : String} (solid : Solid raw block)
      (refused : Libraries.yaml block = .error complaint) :
      Blamed raw ("Unable to parse YAML header: " ++ complaint)
  | notMapping {block : String} {value : Value} (solid : Solid raw block)
      (held : Libraries.yaml block = .ok value) (not_null : value ≠ .null)
      (no_mapping : ∀ members, value ≠ .record members) :
      Blamed raw ("YAML header is " ++ kindText value.written.kind ++ ", not a mapping")

section

variable {raw : Option String} {block : String} {members : Dict Value} {message : String}

theorem Solid.metadata_eq (solid : Solid raw block) :
    raw.map metadata? = some (match Libraries.yaml block with
      | .error complaint => .error (.yaml complaint)
      | .ok .null => .ok none
      | .ok (.record members) => .ok (some members)
      | .ok other => .error (.notMapping other.written.kind)) := by
  obtain ⟨rfl, some_ink⟩ := solid
  exact congrArg some (if_neg (ne_true_of_eq_false some_ink))

theorem exists_solid {result : Except Fault (Option (Dict Value))}
    (read : raw.map metadata? = some result) (told : result ≠ .ok none) :
    ∃ block, Solid raw block := by
  obtain ⟨block, rfl, rfl⟩ := Option.map_eq_some_iff.1 read
  refine ⟨block, rfl, ?_⟩
  rw [← Bool.not_eq_true]
  exact fun blank => told (if_pos blank)

theorem maps_iff : Maps raw members ↔ raw.map metadata? = some (.ok (some members)) := by
  constructor
  · rintro ⟨block, solid, held⟩
    rw [solid.metadata_eq, held]
  · intro read
    obtain ⟨block, solid⟩ := exists_solid read (by simp)
    refine ⟨block, solid, ?_⟩
    rw [solid.metadata_eq] at read
    split at read <;> simp_all

theorem blamed_iff : Blamed raw message ↔
    ∃ fault, raw.map metadata? = some (.error fault) ∧ fault.message = message := by
  constructor
  · intro blamed
    cases blamed with
    | @unreadable block complaint solid refused =>
        exact ⟨.yaml complaint, by rw [solid.metadata_eq, refused], rfl⟩
    | @notMapping block value solid held not_null no_mapping =>
        refine ⟨.notMapping value.written.kind, ?_, rfl⟩
        rw [solid.metadata_eq, held]
        cases value with
        | null => exact absurd rfl not_null
        | record members => exact absurd rfl (no_mapping members)
        | flag | number | text | list => rfl
  · rintro ⟨fault, read, rfl⟩
    obtain ⟨block, solid⟩ := exists_solid read (by simp)
    rw [solid.metadata_eq] at read
    split at read
    · next refused =>
        cases read
        exact .unreadable solid refused
    · cases read
    · cases read
    · next value not_null no_mapping held =>
        cases read
        exact .notMapping solid held not_null no_mapping

theorem exists_blamed (raw : Option String) :
    ∃ complaint : Option String, (∀ message, complaint = some message ↔ Blamed raw message) ∧
      ∀ path, Document.headerFaults path raw = complaint.toList.map (.ofFile path) := by
  unfold Document.headerFaults
  cases read : raw.map metadata? with
  | none => exact ⟨none, by simp [blamed_iff, read]⟩
  | some result =>
      cases result with
      | ok metadata => exact ⟨none, by simp [blamed_iff, read]⟩
      | error fault => exact ⟨some fault.message, by simp [blamed_iff, read, Finding.ofFile]⟩

theorem metadataOf_eq_some_iff : Document.metadataOf raw = some members ↔ Maps raw members := by
  rw [maps_iff, Document.metadataOf]
  cases raw.map metadata? with
  | none => simp
  | some result => cases result <;> simp

theorem Blamed.metadataOf_eq (blamed : Blamed raw message) : Document.metadataOf raw = none := by
  obtain ⟨fault, read, -⟩ := blamed_iff.1 blamed
  rw [Document.metadataOf, read]

end

end Header

namespace Document

open LessonAudit.Tree (Node)

section

variable [Libraries] {path : Path} {text : String} {renderer : Renderer}

theorem readHeader_events (path : Path) (raw : Option String) (j : Journal) :
    (readHeader path raw j).2.events = j.events := by
  unfold readHeader
  cases raw.map Header.metadata? with
  | none => rfl
  | some result => cases result <;> rfl

theorem parse_of_ok {tree : Node} (j : Journal)
    (rendered : renderer (Header.split text).body = .ok tree) :
    parse path text renderer j =
      (some (ofText path text tree), j.more (headerFaults path (Header.split text).raw) []) := by
  have document : (parse path text renderer j).1 = _ := parse_document_of_ok j rendered
  have findings : (parse path text renderer j).2.findings = _ := parse_findings_of_ok j rendered
  have events : (parse path text renderer j).2.events = j.events := by
    simp [parse, rendered, readHeader_events]
  rw [Journal.more, ← document, ← findings, List.append_nil, ← events]

theorem parse_of_error {error : RenderError} (j : Journal)
    (refused : renderer (Header.split text).body = .error error) :
    parse path text renderer j =
      (none, j.more (headerFaults path (Header.split text).raw ++ [renderFault path error])
        [.renderFailed path error.message]) := by
  have document : (parse path text renderer j).1 = _ := parse_document_of_error j refused
  have findings : (parse path text renderer j).2.findings = _ := parse_findings_of_error j refused
  have events : (parse path text renderer j).2.events =
      j.events ++ [.renderFailed path error.message] := by
    simp [parse, refused, readHeader_events]
  rw [Journal.more, ← document, ← findings, ← events]

end

theorem check_parts (d : Document) (role : Role) (policy : Policy) (j : Journal) :
    (d.check role policy j).findings =
      j.findings ++
        (d.roleFaults role ++ (d.checkCode policy (d.checkQuotes policy .empty)).findings) := by
  have blocks : (d.checkCode policy (d.checkQuotes policy .empty)).findings =
      d.classFaults "blockquote" policy.quoteClasses ++
        d.classFaults "codeblock" policy.codeClasses := by
    simp [checkCode, checkQuotes, checkClasses_findings, Journal.empty]
  rw [blocks, check_findings, faults]

theorem roleFaults_of_no_metadata {d : Document} {role : Role} (absent : d.metadata = none) :
    d.roleFaults role =
      if role.needsHeader then [.ofFile d.path "Missing metadata entirely"] else [] := by
  cases needed : role.needsHeader <;>
    simp [roleFaults, needed, absent, Journal.faultUnless, Finding.ofFile]

/-- Reading a page renders its body whatever its header is. It tells of the header, if that cannot
be used, and then of the body, if that cannot be rendered, in which case there is no document. A
header that cannot be used is checked as one that is not there. -/
theorem parse_exact [Libraries] (path : Path) (text : String) (renderer : Renderer) (j : Journal) :
    ∃ (metadata : Option (Dict Value)) (complaint : Option String),
      (∀ members, metadata = some members ↔ Header.Maps (Header.split text).raw members) ∧
      (∀ message, complaint = some message ↔ Header.Blamed (Header.split text).raw message) ∧
      (match renderer (Header.split text).body with
        | .ok tree =>
            parse path text renderer j =
              (some ⟨path, metadata, (Header.split text).lines, tree⟩,
                j.more (complaint.toList.map (.ofFile path)) [])
        | .error error =>
            parse path text renderer j =
                (none, j.more
                  (complaint.toList.map (.ofFile path) ++
                    [.ofFile path ("Unable to render document: " ++ error.message)])
                  [.renderFailed path error.message]) ∧
              (Event.renderFailed path error.message).level = .error) ∧
      ∀ message d, Header.Blamed (Header.split text).raw message →
        (parse path text renderer j).1 = some d → ∀ role policy,
          (d.check role policy (parse path text renderer j).2).findings =
            j.findings ++
              (Finding.ofFile path message ::
                ((if role.needsHeader then [.ofFile path "Missing metadata entirely"] else []) ++
                  (d.checkCode policy (d.checkQuotes policy .empty)).findings)) := by
  obtain ⟨complaint, blamed, said⟩ := Header.exists_blamed (Header.split text).raw
  refine ⟨metadataOf (Header.split text).raw, complaint, fun _ => Header.metadataOf_eq_some_iff,
    blamed, ?_, ?_⟩
  · cases rendered : renderer (Header.split text).body with
    | ok tree => rw [parse_of_ok j rendered, said, ofText]
    | error error => exact ⟨by rw [parse_of_error j rendered, said]; rfl, rfl⟩
  · intro message d unusable parsed role policy
    obtain ⟨tree, rendered, rfl⟩ := eq_ofText_of_parse parsed
    have told : complaint = some message := (blamed message).2 unusable
    rw [check_parts, parse_of_ok j rendered, roleFaults_of_no_metadata unusable.metadataOf_eq, said,
      told]
    simp [Journal.more, ofText]

theorem parse_exact_lone_bracket :
    let parsed := parse ⟨"a.md"⟩ "---]---b" (fun body => .ok (Node.ofKind body)) .empty
    let d : Document := ⟨⟨"a.md"⟩, none, 0, Node.ofKind "b"⟩
    ∃ message, Header.Blamed (Header.split "---]---b").raw message ∧ parsed.1 = some d ∧
      (d.check .generic .standard parsed.2).findings =
        [.ofFile ⟨"a.md"⟩ message, .ofFile ⟨"a.md"⟩ "Missing metadata entirely"] ∧
      (d.check .nonTemplated .standard parsed.2).findings = [.ofFile ⟨"a.md"⟩ message] := by
  dsimp only
  obtain ⟨fault, refused⟩ : ∃ fault, Header.metadata? "]" = .error fault := by
    have failed : (Header.metadata? "]").isOk = false := by decide +kernel
    cases read : Header.metadata? "]" with
    | error fault => exact ⟨fault, rfl⟩
    | ok metadata =>
        rw [read] at failed
        cases failed
  have unusable : Header.Blamed (Header.split "---]---b").raw fault.message :=
    Header.blamed_iff.2 ⟨fault, congrArg some refused, rfl⟩
  have document : (parse ⟨"a.md"⟩ "---]---b" (fun body => .ok (Node.ofKind body)) .empty).1 =
      some ⟨⟨"a.md"⟩, none, 0, Node.ofKind "b"⟩ := by
    rw [parse_document_of_ok .empty rfl, ofText, unusable.metadataOf_eq]
    rfl
  obtain ⟨-, -, -, -, -, checked⟩ :=
    parse_exact ⟨"a.md"⟩ "---]---b" (fun body => .ok (Node.ofKind body)) .empty
  refine ⟨fault.message, unusable, document, ?_, ?_⟩
  · exact checked _ _ unusable document .generic .standard
  · exact checked _ _ unusable document .nonTemplated .standard

end Document
end LessonAudit
