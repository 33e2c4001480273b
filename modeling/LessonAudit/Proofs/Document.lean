import LessonAudit.Document
set_option autoImplicit false

namespace LessonAudit

open Json (Value)
open LessonAudit.Tree (Node)

def Finding.IsAbout (f : Finding) (path : Path) : Prop :=
  ∃ line, f.location = some ⟨path, line⟩

namespace Document

variable [Libraries]

def metadataOf (raw : Option String) : Option (Dict Value) :=
  match raw.map Header.metadata? with
  | some (.ok metadata) => metadata
  | _ => none

def headerFaults (path : Path) (raw : Option String) : List Finding :=
  match raw.map Header.metadata? with
  | some (.error fault) => [⟨some (.whole path), fault.message⟩]
  | _ => []

theorem headerFaults_about {path : Path} {raw : Option String} {f : Finding}
    (found : f ∈ headerFaults path raw) : f.IsAbout path := by
  unfold headerFaults at found
  split at found
  · obtain rfl := List.mem_singleton.1 found
    exact ⟨none, rfl⟩
  · cases found

inductive Given : Option String → Option (Dict Value) → Prop
  | absent : Given none none
  | blank {raw : String} : raw.toList.all Text.isBlank = true → Given (some raw) none
  | null {raw : String} : Libraries.yaml raw = .ok .null → Given (some raw) none
  | mapping {raw : String} {members : Dict Value} : raw.toList.all Text.isBlank = false →
      Libraries.yaml raw = .ok (.record members) → Given (some raw) (some members)

theorem given_iff {path : Path} {raw : Option String} {metadata : Option (Dict Value)} :
    Given raw metadata ↔ headerFaults path raw = [] ∧ metadataOf raw = metadata := by
  constructor
  · intro given
    cases given with
    | absent => exact ⟨rfl, rfl⟩
    | blank blank => simp [headerFaults, metadataOf, Header.metadata?, blank]
    | @null raw null =>
        cases blank : raw.toList.all Text.isBlank <;>
          simp only [headerFaults, metadataOf, Header.metadata?, Option.map_some, blank, null,
            if_true, Bool.false_eq_true, if_false, and_self]
    | mapping solid mapping =>
        simp only [headerFaults, metadataOf, Header.metadata?, Option.map_some, solid, mapping,
          Bool.false_eq_true, if_false, and_self]
  · rintro ⟨silent, rfl⟩
    cases raw with
    | none => exact .absent
    | some raw =>
        cases blank : raw.toList.all Text.isBlank with
        | true =>
            simp only [metadataOf, Header.metadata?, Option.map_some, blank, if_true]
            exact .blank blank
        | false =>
            simp only [headerFaults, metadataOf, Header.metadata?, Option.map_some, blank,
              Bool.false_eq_true, if_false] at silent ⊢
            cases value : Libraries.yaml raw with
            | error fault => simp [value] at silent
            | ok v =>
                cases v with
                | null => exact .null value
                | record members => exact .mapping blank value
                | flag _ | number _ | text _ | list _ => simp [value] at silent

def renderFault (path : Path) (error : RenderError) : Finding :=
  ⟨some (.whole path), "Unable to render document: " ++ error.message⟩

theorem readHeader_metadata (path : Path) (raw : Option String) (j : Journal) :
    (readHeader path raw j).1 = metadataOf raw := by
  unfold readHeader metadataOf
  cases raw.map Header.metadata? with
  | none => rfl
  | some result => cases result <;> rfl

theorem readHeader_findings (path : Path) (raw : Option String) (j : Journal) :
    (readHeader path raw j).2.findings = j.findings ++ headerFaults path raw := by
  unfold readHeader headerFaults
  cases raw.map Header.metadata? with
  | none => simp
  | some result => cases result <;> simp

def ofText (path : Path) (text : String) (tree : Node) : Document :=
  ⟨path, metadataOf (Header.split text).raw, (Header.split text).lines, tree⟩

section

variable {path : Path} {text : String} {renderer : Renderer}

theorem parse_document_of_ok {tree : Node} (j : Journal)
    (rendered : renderer (Header.split text).body = .ok tree) :
    (parse path text renderer j).1 = some (ofText path text tree) := by
  simp [parse, rendered, ofText, readHeader_metadata]

theorem parse_findings_of_ok {tree : Node} (j : Journal)
    (rendered : renderer (Header.split text).body = .ok tree) :
    (parse path text renderer j).2.findings =
      j.findings ++ headerFaults path (Header.split text).raw := by
  simp [parse, rendered, readHeader_findings]

theorem parse_document_of_error {error : RenderError} (j : Journal)
    (refused : renderer (Header.split text).body = .error error) :
    (parse path text renderer j).1 = none := by
  simp [parse, refused]

theorem parse_findings_of_error {error : RenderError} (j : Journal)
    (refused : renderer (Header.split text).body = .error error) :
    (parse path text renderer j).2.findings =
      j.findings ++ (headerFaults path (Header.split text).raw ++ [renderFault path error]) := by
  simp [parse, refused, readHeader_findings, renderFault]

theorem eq_ofText_of_parse {d : Document} {j : Journal}
    (parsed : (parse path text renderer j).1 = some d) :
    ∃ tree, renderer (Header.split text).body = .ok tree ∧ d = ofText path text tree := by
  cases rendered : renderer (Header.split text).body with
  | error error => simp [parse_document_of_error j rendered] at parsed
  | ok tree =>
      rw [parse_document_of_ok j rendered] at parsed
      exact ⟨tree, rfl, (Option.some.inj parsed).symm⟩

end

end Document
end LessonAudit
