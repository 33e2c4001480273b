import LessonAudit.Proofs.Disk
set_option autoImplicit false

namespace LessonAudit.Disk

open Text.Utf8 (encode)

variable {disk : Disk} {path : Path} {bytes : List UInt8} {limit : UInt64}

theorem Faithful.unique {read read' : Except ReadFault String} (faithful : Faithful bytes limit read)
    (faithful' : Faithful bytes limit read') : read = read' := by
  by_cases large : limit.toNat < bytes.length
  · rw [faithful.tooLarge_iff.2 large, faithful'.tooLarge_iff.2 large]
  · have fits := Nat.not_lt.1 large
    by_cases written : ∃ text, bytes = encode text
    · obtain ⟨text, same⟩ := written
      rw [(faithful.text_iff text).2 ⟨fits, same⟩, (faithful'.text_iff text).2 ⟨fits, same⟩]
    · have unwritten := not_exists.1 written
      rw [faithful.notText_iff.2 ⟨fits, unwritten⟩, faithful'.notText_iff.2 ⟨fits, unwritten⟩]

theorem add_one_eq_zero (largest : ¬ limit.toNat < UInt64.size - 1) : limit + 1 = 0 := by
  have bound : limit.toNat < UInt64.size := limit.toNat_lt
  have last : limit.toNat = UInt64.size - 1 := by omega
  rw [← UInt64.toNat_inj, UInt64.toNat_add, last]
  rfl

theorem readText_of_largest (held : disk.bytes path = .ok bytes)
    (largest : ¬ limit.toNat < UInt64.size - 1) : disk.readText path limit = .ok "" := by
  have first : disk.firstBytes path limit = .ok [] := by
    rw [firstBytes, held, add_one_eq_zero largest]
    rfl
  unfold readText
  rw [first]
  rfl

theorem faithful_empty_iff : Faithful bytes limit (.ok "") ↔ bytes = [] := by
  constructor
  · intro faithful
    exact ((faithful.text_iff "").1 rfl).2
  · rintro rfl
    exact whole_faithful [] limit

theorem faithful_readText_iff (held : disk.bytes path = .ok bytes) :
    Faithful bytes limit (disk.readText path limit) ↔
      limit.toNat < UInt64.size - 1 ∨ bytes = [] := by
  by_cases small : limit.toNat < UInt64.size - 1
  · rw [readText_eq_whole held small]
    exact iff_of_true (whole_faithful bytes limit) (.inl small)
  · rw [readText_of_largest held small, faithful_empty_iff, or_iff_right small]

theorem readText_of_raised {limit' : UInt64} {text : String} (held : disk.bytes path = .ok bytes)
    (raised : limit ≤ limit') (small' : limit'.toNat < UInt64.size - 1)
    (read : disk.readText path limit = .ok text) : disk.readText path limit' = .ok text := by
  have small : limit.toNat < UInt64.size - 1 := Nat.lt_of_le_of_lt raised small'
  rw [readText_eq_whole held small, (whole_faithful bytes limit).text_iff] at read
  obtain ⟨fits, written⟩ := read
  rw [readText_eq_whole held small', (whole_faithful bytes limit').text_iff]
  exact ⟨Nat.le_trans fits raised, written⟩

/-- What is read of a file is what all of its bytes give, exactly if the limit is not the largest or
the file is empty. A text that was read is read again under every larger limit, but under the
largest one only if it is empty. -/
theorem limited_reading_iff (held : disk.bytes path = .ok bytes) (limit : UInt64) :
    (Faithful bytes limit (disk.readText path limit) ↔
      limit.toNat < UInt64.size - 1 ∨ bytes = []) ∧
    (disk.readText path limit = whole bytes limit ↔
      limit.toNat < UInt64.size - 1 ∨ bytes = []) ∧
    ∀ limit' text, limit ≤ limit' → disk.readText path limit = .ok text →
      (disk.readText path limit' = .ok text ↔ limit'.toNat < UInt64.size - 1 ∨ text = "") := by
  refine ⟨faithful_readText_iff held, ?_, ?_⟩
  · rw [← faithful_readText_iff held]
    constructor
    · intro same
      exact same ▸ whole_faithful bytes limit
    · exact fun faithful => faithful.unique (whole_faithful bytes limit)
  · intro limit' text raised read
    by_cases small' : limit'.toNat < UInt64.size - 1
    · exact iff_of_true (readText_of_raised held raised small' read) (.inl small')
    · rw [readText_of_largest held small', or_iff_right small', Except.ok.injEq, eq_comm]

theorem limited_reading_iff_cut_character :
    let disk := holding (.ok [0xC3, 0xA9])
    disk.bytes ⟨"l/a.md"⟩ = .ok [0xC3, 0xA9] ∧
      Faithful [0xC3, 0xA9] 1 (disk.readText ⟨"l/a.md"⟩ 1) ∧
      disk.readText ⟨"l/a.md"⟩ 1 = .error (.tooLarge 1) ∧
      disk.readText ⟨"l/a.md"⟩ 2 = .ok "é" ∧ disk.readText ⟨"l/a.md"⟩ 3 = .ok "é" := by
  intro disk
  have held : disk.bytes ⟨"l/a.md"⟩ = .ok [0xC3, 0xA9] := rfl
  have faithful := (limited_reading_iff held 1).1.2 (.inl (by decide))
  have read : disk.readText ⟨"l/a.md"⟩ 2 = .ok "é" := rfl
  have again := (limited_reading_iff held 2).2.2 3 "é" (by decide) read
  exact ⟨held, faithful, faithful.tooLarge_iff.2 (by decide), read, again.2 (.inl (by decide))⟩

theorem largest_limit_hides_page :
    let page := "---\nlayout: page\n---\n"
    let disk := holding (.ok (encode page))
    disk.readText ⟨"l/a.md"⟩ 21 = .ok page ∧
      disk.readText ⟨"l/a.md"⟩ 0xFFFFFFFFFFFFFFFF = .ok "" ∧
      ¬ Faithful (encode page) 0xFFFFFFFFFFFFFFFF
        (disk.readText ⟨"l/a.md"⟩ 0xFFFFFFFFFFFFFFFF) := by
  intro page disk
  have held : disk.bytes ⟨"l/a.md"⟩ = .ok (encode page) := rfl
  have hidden : disk.readText ⟨"l/a.md"⟩ 0xFFFFFFFFFFFFFFFF = .ok "" :=
    readText_of_largest held (by decide)
  refine ⟨?_, hidden, ?_⟩
  · rw [readText_eq_whole held (by decide)]
    exact ((whole_faithful _ _).text_iff page).2 ⟨by decide, rfl⟩
  · rw [hidden, faithful_empty_iff]
    decide

end LessonAudit.Disk
