import LessonAudit.Episode
import LessonAudit.Proofs.Journal
import LessonAudit.Proofs.Sorting
set_option autoImplicit false

namespace LessonAudit.Episode

open Sorting

def numberFaults (texts : List String) : List Finding :=
  let sorted := texts.mergeSort fun a b => decide (a ≤ b)
  let distinct := sorted.eraseReps
  let unread := texts.filter fun t => (natural? t).isNone
  let numbers := (texts.filterMap natural?).mergeSort fun a b => decide (a ≤ b)
  Journal.faultUnless (sorted.length == distinct.length) none
      ("Duplicate episode numbers " ++ shownTexts sorted ++ " vs " ++ shownTexts distinct) ++
    (Journal.faultUnless unread.isEmpty none
        ("Episode numbers are not decimal " ++ shownTexts unread) ++
      Journal.faultUnless (consecutive 1 numbers.eraseReps) none
        ("Missing or non-consecutive episode numbers " ++ shownNumbers numbers))

theorem checkNumbers_findings (texts : List String) (j : Journal) :
    (checkNumbers texts j).findings = j.findings ++ numberFaults texts := by
  simp only [checkNumbers, numberFaults, Journal.findings_check, Journal.faultUnless,
    List.append_assoc]

theorem consecutive_iff {first : Nat} {numbers : List Nat} :
    consecutive first numbers = true ↔ numbers = List.range' first numbers.length := by
  induction numbers generalizing first with
  | nil => simp [consecutive]
  | cons n more ih => simp [consecutive, ih, List.range'_succ]

theorem consecutive_of_pairwise {first : Nat} {numbers : List Nat}
    (rising : numbers.Pairwise (· < ·)) :
    consecutive first numbers = true ↔
      ∃ count, ∀ n, n ∈ numbers ↔ first ≤ n ∧ n < first + count := by
  rw [consecutive_iff]
  constructor
  · intro run
    refine ⟨numbers.length, fun n => ?_⟩
    rw [← List.mem_range'_1, ← run]
  · rintro ⟨count, members⟩
    have perm : numbers.Perm (List.range' first count) :=
      (List.perm_ext_iff_of_nodup (rising.imp Nat.ne_of_lt) List.nodup_range').2 fun n => by
        rw [members, List.mem_range'_1]
    have run : numbers = List.range' first count :=
      perm.eq_of_pairwise
        (fun a b _ _ (below : a < b) above => absurd above (Nat.lt_asymm below)) rising
        List.pairwise_lt_range'
    rw [run, List.length_range']

theorem consecutive_numbers_iff {texts : List String} :
    consecutive 1
        ((texts.filterMap natural?).mergeSort fun a b => decide (a ≤ b)).eraseReps = true ↔
      ∃ count, ∀ n, (∃ t ∈ texts, natural? t = some n) ↔ 1 ≤ n ∧ n < 1 + count := by
  have rising := (pairwise_eraseReps (pairwise_sorted (texts.filterMap natural?))).imp
    fun pair => Nat.lt_of_le_of_ne pair.1 pair.2
  simp only [consecutive_of_pairwise rising, mem_eraseReps, List.mem_mergeSort,
    List.mem_filterMap]

theorem numberFaults_eq_nil_iff {texts : List String} :
    numberFaults texts = [] ↔
      texts.Nodup ∧ (∀ t ∈ texts, (natural? t).isSome) ∧
        ∃ count, ∀ n, (∃ t ∈ texts, natural? t = some n) ↔ 1 ≤ n ∧ n < 1 + count := by
  have unread_iff : (texts.filter fun t => (natural? t).isNone).isEmpty = true ↔
      ∀ t ∈ texts, (natural? t).isSome := by
    simp [Option.isSome_iff_ne_none]
  simp only [numberFaults, List.append_eq_nil_iff, Journal.faultUnless_eq_nil_iff, beq_iff_eq,
    length_sorted_eq_iff, unread_iff, consecutive_numbers_iff]

def numeral (n : Nat) : String :=
  if n < 10 then "0" ++ toString n else toString n

def numerals (count : Nat) : List String :=
  (List.range' 1 count).map numeral

theorem natural?_numeral : ∀ n < 100, natural? (numeral n) = some n := by decide

theorem exists_digit {c : Char} (digit : isAsciiDigit c = true) :
    ∃ n < 10, c = Char.ofNat (48 + n) := by
  simp only [isAsciiDigit, Bool.and_eq_true, decide_eq_true_eq] at digit
  have low : 48 ≤ c.toNat := digit.1
  have high : c.toNat ≤ 57 := digit.2
  refine ⟨c.toNat - 48, by omega, ?_⟩
  rw [show 48 + (c.toNat - 48) = c.toNat by omega, Char.ofNat_toNat]

theorem numeral_of_digits : ∀ m < 10, ∀ n < 10,
    numeral (10 * m + n) = String.ofList [Char.ofNat (48 + m), Char.ofNat (48 + n)] := by
  decide

structure TwoDigits (text : String) : Prop where
  two : text.toList.length = 2
  digits : ∀ c ∈ text.toList, isAsciiDigit c = true

theorem TwoDigits.exists_numeral {text : String} (h : TwoDigits text) :
    ∃ n < 100, text = numeral n := by
  obtain ⟨a, b, cut⟩ : ∃ a b, text.toList = [a, b] := by
    match text.toList, h.two with
    | [a, b], _ => exact ⟨a, b, rfl⟩
  obtain ⟨m, m_small, rfl⟩ := exists_digit (h.digits a (by simp [cut]))
  obtain ⟨n, n_small, rfl⟩ := exists_digit (h.digits b (by simp [cut]))
  refine ⟨10 * m + n, by omega, ?_⟩
  rw [numeral_of_digits m m_small n n_small, ← cut, String.ofList_toList]

theorem TwoDigits.natural?_eq_some_iff {text : String} (h : TwoDigits text) {n : Nat} :
    natural? text = some n ↔ n < 100 ∧ text = numeral n := by
  constructor
  · intro found
    obtain ⟨m, small, rfl⟩ := h.exists_numeral
    rw [natural?_numeral m small] at found
    cases found
    exact ⟨small, rfl⟩
  · rintro ⟨small, rfl⟩
    exact natural?_numeral n small

theorem nodup_numerals {count : Nat} (small : count < 100) : (numerals count).Nodup := by
  rw [numerals, List.Nodup, List.pairwise_map]
  refine List.Pairwise.imp_of_mem ?_ List.nodup_range'
  intro m n first second differ same
  rw [List.mem_range'_1] at first second
  have value := natural?_numeral m (by omega)
  rw [same, natural?_numeral n (by omega)] at value
  cases value
  exact differ rfl

theorem mem_numerals {count : Nat} {text : String} :
    text ∈ numerals count ↔ ∃ n, (1 ≤ n ∧ n < 1 + count) ∧ text = numeral n := by
  simp only [numerals, List.mem_map, List.mem_range'_1, eq_comm]

theorem numberFaults_eq_nil_iff_perm {texts : List String} (two : ∀ t ∈ texts, TwoDigits t) :
    numberFaults texts = [] ↔ ∃ count, texts.Perm (numerals count) := by
  rw [numberFaults_eq_nil_iff]
  constructor
  · rintro ⟨nodup, -, count, values⟩
    -- No text of two digits reads as 100.
    have small : count < 100 := by
      refine Nat.lt_of_not_le fun large => ?_
      obtain ⟨t, member, value⟩ := (values 100).2 (by omega)
      exact absurd ((two t member).natural?_eq_some_iff.1 value).1 (by decide)
    refine ⟨count, (List.perm_ext_iff_of_nodup nodup (nodup_numerals small)).2 fun t => ?_⟩
    rw [mem_numerals]
    constructor
    · intro member
      obtain ⟨n, n_small, same⟩ := (two t member).exists_numeral
      have value := (two t member).natural?_eq_some_iff.2 ⟨n_small, same⟩
      exact ⟨n, (values n).1 ⟨t, member, value⟩, same⟩
    · rintro ⟨n, bounds, rfl⟩
      obtain ⟨t, member, value⟩ := (values n).2 bounds
      rw [← ((two t member).natural?_eq_some_iff.1 value).2]
      exact member
  · rintro ⟨count, perm⟩
    -- The numeral of 100 would have three digits.
    have small : count < 100 := by
      refine Nat.lt_of_not_le fun large => ?_
      have member := perm.mem_iff.2 (mem_numerals.2 ⟨100, ⟨by decide, by omega⟩, rfl⟩)
      exact absurd (two _ member).two (by decide)
    refine ⟨perm.nodup_iff.2 (nodup_numerals small), fun t member => ?_, count, fun n => ?_⟩
    · obtain ⟨n, n_small, same⟩ := (two t member).exists_numeral
      simp [(two t member).natural?_eq_some_iff.2 ⟨n_small, same⟩]
    · constructor
      · rintro ⟨t, member, value⟩
        obtain ⟨n_small, rfl⟩ := (two t member).natural?_eq_some_iff.1 value
        obtain ⟨m, bounds, same⟩ := mem_numerals.1 (perm.mem_iff.1 member)
        rw [same, natural?_numeral m (by omega)] at value
        cases value
        exact bounds
      · intro bounds
        refine ⟨numeral n, perm.mem_iff.2 (mem_numerals.2 ⟨n, bounds, rfl⟩), ?_⟩
        exact natural?_numeral n (by omega)

end LessonAudit.Episode
