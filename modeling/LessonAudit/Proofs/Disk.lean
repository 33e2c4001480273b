import LessonAudit.Disk
import LessonAudit.Proofs.Text.Utf8
set_option autoImplicit false

namespace LessonAudit.Disk

open Text.Utf8 (encode decode? decode?_eq_some_iff)

def holding (contents : Except DiskFault (List UInt8)) : Disk :=
  ⟨fun _ => false, fun _ => false, fun _ => [], fun _ => contents⟩

theorem readText_eq_holding (disk : Disk) (path : Path) (limit : UInt64) :
    disk.readText path limit = (holding (disk.bytes path)).readText path limit := rfl

variable {disk : Disk} {path : Path} {bytes : List UInt8} {limit : UInt64}

def whole (bytes : List UInt8) (limit : UInt64) : Except ReadFault String :=
  if limit.toNat < bytes.length then .error (.tooLarge limit)
  else
    match decode? bytes with
    | some text => .ok text
    | none => .error .notText

structure Faithful (bytes : List UInt8) (limit : UInt64) (read : Except ReadFault String) :
    Prop where
  text_iff : ∀ text, read = .ok text ↔ bytes.length ≤ limit.toNat ∧ bytes = encode text
  tooLarge_iff : read = .error (.tooLarge limit) ↔ limit.toNat < bytes.length
  notText_iff : read = .error .notText ↔
    bytes.length ≤ limit.toNat ∧ ∀ text, bytes ≠ encode text

theorem decode?_eq_none_iff : decode? bytes = none ↔ ∀ text, bytes ≠ encode text := by
  rw [Option.eq_none_iff_forall_ne_some]
  exact forall_congr' fun text => not_congr decode?_eq_some_iff

theorem whole_of_large (large : limit.toNat < bytes.length) :
    whole bytes limit = .error (.tooLarge limit) :=
  if_pos large

theorem whole_of_fits (fits : bytes.length ≤ limit.toNat) :
    whole bytes limit = match decode? bytes with
      | some text => .ok text
      | none => .error .notText :=
  if_neg (Nat.not_lt.2 fits)

theorem whole_faithful (bytes : List UInt8) (limit : UInt64) :
    Faithful bytes limit (whole bytes limit) := by
  by_cases large : limit.toNat < bytes.length
  · have not_fits : ¬ bytes.length ≤ limit.toNat := Nat.not_le.2 large
    rw [whole_of_large large]
    constructor <;> simp [large, not_fits]
  · have fits := Nat.not_lt.1 large
    rw [whole_of_fits fits]
    cases decoded : decode? bytes with
    | none =>
        have unwritten := decode?_eq_none_iff.1 decoded
        constructor <;> simp [large, fits, unwritten]
    | some found =>
        constructor
        · intro text
          rw [← decode?_eq_some_iff, decoded]
          simp [fits]
        · simp [large]
        · rw [← decode?_eq_none_iff, decoded]
          simp

theorem toNat_add_one (small : limit.toNat < UInt64.size - 1) :
    (limit + 1).toNat = limit.toNat + 1 := by
  rw [UInt64.toNat_add]
  refine Nat.mod_eq_of_lt ?_
  change limit.toNat + 1 < UInt64.size
  omega

theorem readText_eq_whole (held : disk.bytes path = .ok bytes)
    (small : limit.toNat < UInt64.size - 1) : disk.readText path limit = whole bytes limit := by
  have first : disk.firstBytes path limit = .ok (bytes.take (limit.toNat + 1)) := by
    rw [firstBytes, held, toNat_add_one small]
  unfold readText
  rw [first]
  by_cases large : limit.toNat < bytes.length
  · have shows : limit.toNat < (bytes.take (limit.toNat + 1)).length := by
      rw [List.length_take]
      omega
    rw [whole_of_large large]
    exact if_pos shows
  · rw [List.take_of_length_le (by omega)]
    rfl

theorem readText_of_fault {fault : DiskFault} (held : disk.bytes path = .error fault)
    (small : limit.toNat < UInt64.size - 1) : disk.readText path limit = .error (.disk fault) := by
  -- behind the largest limit the count would start again at zero
  have counted : limit + 1 ≠ 0 := by
    intro zero
    have count := toNat_add_one small
    simp [zero] at count
  cases fault <;> simp [readText, firstBytes, held, counted]

theorem readText_eq_ok_iff {text : String} (small : limit.toNat < UInt64.size - 1) :
    disk.readText path limit = .ok text ↔
      ∃ bytes, disk.bytes path = .ok bytes ∧ bytes.length ≤ limit.toNat ∧
        bytes = Text.Utf8.encode text := by
  cases held : disk.bytes path with
  | ok bytes =>
      rw [readText_eq_whole held small, (whole_faithful bytes limit).text_iff]
      simp only [Except.ok.injEq, exists_eq_left']
  | error fault => simp [readText_of_fault held small]

end LessonAudit.Disk
