import LessonAudit.CommandLine.Run
import LessonAudit.Proofs.Json.Spread
import LessonAudit.Proofs.Json.Values
import LessonAudit.Proofs.Path.Text
import LessonAudit.Proofs.Report.Lines
set_option autoImplicit false

namespace LessonAudit

open Json (Value Written Number Spells)

def Json.Value.member? : Value → String → Option Value
  | .record members, name => Dict.get? members name
  | _, _ => none

def Location.ofValue? (v : Value) : Option Location :=
  match v.member? "file", v.member? "line" with
  | some (.text file), none => some (.whole ⟨file⟩)
  | some (.text file), some (.number (.natural line)) => some (.ofLine ⟨file⟩ line)
  | _, _ => none

def Finding.ofValue? (v : Value) : Option Finding :=
  match v.member? "location", v.member? "message" with
  | some .null, some (.text message) => some ⟨none, message⟩
  | some place, some (.text message) =>
      (Location.ofValue? place).map fun location => ⟨some location, message⟩
  | _, _ => none

def Report.ofValue? (v : Value) : Option (Report × Bool) :=
  match v.member? "documents_found", v.member? "documents_checked", v.member? "ok",
    v.member? "findings" with
  | some (.number (.natural found)), some (.number (.natural checked)), some (.flag ok),
    some (.list items) =>
      (items.mapM Finding.ofValue?).map fun findings => (⟨found, checked, findings⟩, ok)
  | _, _, _, _ => none

theorem Location.ofValue?_written {l : Location} (in_text : l.file.isText = true) :
    ofValue? l.written.value = some l := by
  obtain ⟨file, line⟩ := l
  have same_file : (⟨Text.Utf8.encode file.text⟩ : Path) = file := by
    rw [Path.encode_text in_text]
  cases line <;>
    simp [written, Written.value, Written.valueMembers, Dict.get?_insert, ofValue?, Value.member?,
      whole, ofLine, same_file]

def Finding.InText (f : Finding) : Prop :=
  ∀ place, f.location = some place → place.file.isText = true

theorem Finding.ofValue?_written {f : Finding} (in_text : f.InText) :
    ofValue? f.written.value = some f := by
  obtain ⟨location, message⟩ := f
  cases location with
  | none =>
      simp [written, Written.value, Written.valueMembers, Dict.get?_insert, ofValue?, Value.member?]
  | some place =>
      have read_place := Location.ofValue?_written (in_text place rfl)
      -- a place is written as a record, and so never as null
      rw [Location.written, Written.value] at read_place
      simpa [written, Location.written, Written.value, Written.valueMembers, Dict.get?_insert,
        ofValue?, Value.member?] using read_place

theorem Finding.mapM_ofValue?_written {findings : List Finding}
    (in_text : ∀ f ∈ findings, f.InText) :
    (Written.valueItems (findings.map written)).mapM ofValue? = some findings := by
  induction findings with
  | nil => rfl
  | cons f findings ih =>
      obtain ⟨first, rest⟩ := List.forall_mem_cons.1 in_text
      simp [Written.valueItems, List.mapM_cons, ofValue?_written first, ih rest]

namespace Report

theorem inText_iff {r : Report} : r.inText = true ↔ ∀ f ∈ r.findings, f.InText := by
  simp only [inText, List.all_eq_true, Finding.InText]
  refine forall_congr' fun f => forall_congr' fun _ => ?_
  cases f.location <;> simp

theorem ofValue?_written {r : Report} (in_text : r.inText = true) :
    ofValue? r.written.value = some (r, r.ok) := by
  have read_findings := Finding.mapM_ofValue?_written (inText_iff.1 in_text)
  simp [written, Written.value, Written.valueMembers, Dict.get?_insert, ofValue?, Value.member?,
    read_findings]

structure Fits (r : Report) : Prop where
  found : r.found < UInt64.size
  checked : r.checked < UInt64.size
  lines : ∀ f ∈ r.findings, ∀ place, f.location = some place → ∀ line, place.line = some line →
    line < UInt64.size
  files : ∀ f ∈ r.findings, ∀ place, f.location = some place →
    ∃ text, place.file.bytes = Text.Utf8.encode text

variable {r r' : Report}

theorem Fits.natural {x : Number} (fits : r.Fits) (occurs : r.written.Occurs x) :
    ∃ n, x = .natural n ∧ n < UInt64.size := by
  simp only [written, Json.occurs_record, List.mem_cons, List.not_mem_nil, or_false,
    exists_eq_or_imp, exists_eq_left, Json.occurs_number, Json.occurs_list, List.mem_map,
    exists_exists_and_eq_and] at occurs
  rcases occurs with rfl | rfl | flag | ⟨f, known, inside⟩
  · exact ⟨_, rfl, fits.found⟩
  · exact ⟨_, rfl, fits.checked⟩
  · cases flag
  · obtain ⟨location, message⟩ := f
    cases location with
    | none =>
        simp [Finding.written] at inside
        cases inside
    | some place =>
        obtain ⟨file, line⟩ := place
        cases line with
        | none => simp [Finding.written, Location.written] at inside
        | some line =>
            simp [Finding.written, Location.written] at inside
            exact ⟨line, inside.symm, fits.lines _ known _ rfl _ rfl⟩

theorem Fits.inText (fits : r.Fits) : r.inText = true := by
  refine inText_iff.2 fun f known place located => ?_
  exact Path.isText_iff.2 (fits.files f known place located)

theorem Fits.spells (fits : r.Fits) : Spells r.written (r.written.spread 0) := by
  refine Json.spells_spread (fun x occurs => ?_) 0
  obtain ⟨n, rfl, small⟩ := fits.natural occurs
  exact .number (.unsigned (Json.spells_natural small))

theorem depth_written_le (r : Report) : r.written.depth ≤ 4 := by
  have findings_depth (f : Finding) : f.written.depth ≤ 2 := by
    obtain ⟨location, message⟩ := f
    cases location with
    | none => simp [Finding.written, Written.depth, Written.depthMembers]
    | some place =>
        obtain ⟨file, line⟩ := place
        cases line <;> simp [Finding.written, Location.written, Written.depth, Written.depthMembers]
  have inside : (Written.list (r.findings.map Finding.written)).depth ≤ 3 := by
    refine Written.depth_list_le.2 fun item known => ?_
    obtain ⟨f, -, rfl⟩ := List.mem_map.1 known
    exact findings_depth f
  refine Written.depth_record_le.2 ?_
  simpa [Written.depth] using inside

theorem Fits.ofText?_json (fits : r.Fits) : Value.ofText? (r.text .json) = .ok r.written.value := by
  have is_text : Json.IsText r.written (r.text .json).toList := by
    simpa [text, Written.spreadText] using
      Json.IsText.intro Json.isGap_nil fits.spells (show Json.IsGap ['\n'] by simp [Json.IsGap])
  have reads : Json.read Json.Schema.free () (r.text .json).toList = .ok r.written :=
    Json.read_iff.2 ⟨is_text, Nat.le_trans r.depth_written_le (by decide),
      Json.Schema.free_open.conforms r.written⟩
  rw [Value.ofText?, reads]
  rfl

theorem Fits.written_json (fits : r.Fits) :
    CommandLine.written r .json = .ok (r.text .json, r.exitStatus) :=
  if_pos fits.inText

theorem exitStatus_eq_zero_iff (r : Report) : r.exitStatus = 0 ↔ r.ok = true := by
  unfold exitStatus Finding.exitStatus ok
  cases r.findings.isEmpty <;> simp

structure Faithful (r : Report) : Prop where
  json : ∃ body, CommandLine.written r .json = .ok (body ++ "\n", r.exitStatus) ∧
    Spells r.written body.toList ∧
    ∃ v, Value.ofText? (body ++ "\n") = .ok v ∧ ofValue? v = some (r, r.ok)
  told_apart : ∀ (r' : Report) (text : String) (status status' : Nat), r'.Fits →
    CommandLine.written r .json = .ok (text, status) →
    CommandLine.written r' .json = .ok (text, status') → r' = r
  status : ∀ format, ∃ text, CommandLine.written r format = .ok (text, r.exitStatus)
  zero_iff : r.exitStatus = 0 ↔ r.ok = true
  ok_iff : r.ok = true ↔ r.findings = []
  silent_iff : (∃ status, CommandLine.written r .human = .ok ("", status)) ↔ r.findings = []

/-- A report is told in full by its JSON form, and both forms have the status of its verdict. -/
theorem faithful_of_fits (fits : r.Fits) : r.Faithful where
  json := ⟨r.written.spreadText, fits.written_json, by simpa [Written.spreadText] using fits.spells,
    r.written.value, fits.ofText?_json, ofValue?_written fits.inText⟩
  told_apart := by
    intro r' text status status' fits' shown shown'
    have text_eq : r'.text .json = r.text .json := by
      rw [fits.written_json] at shown
      rw [fits'.written_json] at shown'
      exact (congrArg Prod.fst (Except.ok.inj shown')).trans
        (congrArg Prod.fst (Except.ok.inj shown)).symm
    have value_eq : r'.written.value = r.written.value := by
      have reads := fits'.ofText?_json
      rw [text_eq, fits.ofText?_json] at reads
      exact (Except.ok.inj reads).symm
    have told := ofValue?_written fits'.inText
    rw [value_eq, ofValue?_written fits.inText] at told
    exact (congrArg Prod.fst (Option.some.inj told)).symm
  status := by
    intro format
    cases format with
    | human => exact ⟨_, rfl⟩
    | json => exact ⟨_, fits.written_json⟩
  zero_iff := r.exitStatus_eq_zero_iff
  ok_iff := List.isEmpty_iff
  silent_iff := by
    rw [← Finding.lines_eq_empty_iff]
    constructor
    · rintro ⟨status, shown⟩
      exact congrArg Prod.fst (Except.ok.inj shown)
    · exact fun silent => ⟨_, congrArg Except.ok (Prod.ext silent rfl)⟩

def threePlaces : Report where
  found := 2
  checked := 1
  findings :=
    [⟨some (.ofLine ⟨"l/é\".md"⟩ 7), "Unknown or missing codeblock type a\nb\\"⟩,
      ⟨some (.whole ⟨"l/index.md"⟩), "Missing metadata entirely"⟩,
      ⟨none, "Missing required file l/setup.md"⟩]

theorem faithful_of_fits_three_places :
    threePlaces.Fits ∧ threePlaces.Faithful ∧ threePlaces.exitStatus = 1 := by
  have fits : threePlaces.Fits := by
    refine ⟨by decide, by decide, ?_, ?_⟩
    all_goals
      intro f member place located
      simp only [threePlaces, List.mem_cons, List.not_mem_nil, or_false] at member
      rcases member with rfl | rfl | rfl <;> cases located
    · rintro line ⟨⟩
      decide
    · rintro line ⟨⟩
    · exact ⟨_, rfl⟩
    · exact ⟨_, rfl⟩
  exact ⟨fits, faithful_of_fits fits, by decide⟩

end Report
end LessonAudit
