import LessonAudit.Proofs.Fileset.Episodes
import Mathlib.Data.List.Nodup
import Mathlib.Data.List.Pairwise
import Mathlib.Data.Option.Basic
set_option autoImplicit false

namespace LessonAudit.Episode

def Denotes (text : String) (n : Nat) : Prop :=
  ∃ sign digits, text.toList = sign ++ digits ∧ (sign = [] ∨ sign = ['+']) ∧ digits ≠ [] ∧
    (∀ c ∈ digits, isAsciiDigit c = true) ∧ n = Nat.ofDigitChars 10 digits 0 ∧ n < 0x100000000

def Enumerated (texts : List String) : Prop :=
  ∃ values, List.Forall₂ Denotes texts values ∧ values.Perm (List.range' 1 texts.length)

def SpelledOnce (texts : List String) : Prop :=
  ∀ s ∈ texts, ∀ t ∈ texts, ∀ n, Denotes s n → Denotes t n → s = t

def Repeated (texts : List String) : Prop :=
  ∃ s t n, [s, t].Sublist texts ∧ Denotes s n ∧ Denotes t n

variable {text : String} {texts : List String} {values : List Nat} {n : Nat}

def unsigned : List Char → List Char
  | '+' :: rest => rest
  | chars => chars

theorem natural?_eq (text : String) :
    natural? text =
      if (unsigned text.toList).isEmpty || !(unsigned text.toList).all isAsciiDigit then none
      else
        let n := Nat.ofDigitChars 10 (unsigned text.toList) 0
        if n < 0x100000000 then some n else none := rfl

theorem exists_sign (chars : List Char) :
    ∃ sign, chars = sign ++ unsigned chars ∧ (sign = [] ∨ sign = ['+']) := by
  unfold unsigned
  split
  · exact ⟨['+'], rfl, .inr rfl⟩
  · exact ⟨[], rfl, .inl rfl⟩

theorem unsigned_append {sign digits : List Char} (signed : sign = [] ∨ sign = ['+'])
    (plain : ∀ c ∈ digits, isAsciiDigit c = true) : unsigned (sign ++ digits) = digits := by
  rcases signed with rfl | rfl
  · unfold unsigned
    split
    · next rest whole =>
        have plus : isAsciiDigit '+' = true := plain '+' (by simp [show digits = _ from whole])
        exact absurd plus (by decide)
    · rfl
  · rfl

theorem natural?_eq_some_iff : natural? text = some n ↔ Denotes text n := by
  rw [natural?_eq]
  constructor
  · intro found
    obtain ⟨sign, cut, signed⟩ := exists_sign text.toList
    simp only [Option.ite_none_left_eq_some, Option.ite_none_right_eq_some, Bool.or_eq_true,
      Bool.not_eq_true', not_or, Bool.not_eq_false, List.isEmpty_iff, List.all_eq_true,
      Option.some.injEq] at found
    obtain ⟨⟨some_digit, plain⟩, small, rfl⟩ := found
    exact ⟨sign, _, cut, signed, some_digit, plain, rfl, small⟩
  · rintro ⟨sign, digits, cut, signed, some_digit, plain, rfl, small⟩
    have all_plain : digits.all isAsciiDigit = true := List.all_eq_true.2 plain
    rw [cut, unsigned_append signed plain]
    simp only [List.isEmpty_eq_false_iff.2 some_digit, all_plain]
    simpa using small

theorem forall₂_denotes_iff :
    List.Forall₂ Denotes texts values ↔ texts.map natural? = values.map some := by
  rw [← List.forall₂_eq_eq_eq, List.forall₂_map_left_iff, List.forall₂_map_right_iff]
  simp only [natural?_eq_some_iff]

theorem nodup_values_iff (denoted : List.Forall₂ Denotes texts values) :
    values.Nodup ↔ texts.Nodup ∧ SpelledOnce texts := by
  have mapped := forall₂_denotes_iff.1 denoted
  rw [← List.nodup_map_iff (Option.some_injective ℕ), ← mapped]
  constructor
  · intro nodup
    refine ⟨nodup.of_map, fun s s_in t t_in n first second => ?_⟩
    rw [← natural?_eq_some_iff] at first second
    exact List.inj_on_of_nodup_map nodup s_in t_in (first.trans second.symm)
  · rintro ⟨nodup, once⟩
    refine nodup.map_on fun s s_in t t_in same => ?_
    have read : natural? s ∈ texts.map natural? := List.mem_map_of_mem s_in
    rw [mapped] at read
    obtain ⟨n, -, value⟩ := List.mem_map.1 read
    exact once s s_in t t_in n (natural?_eq_some_iff.1 value.symm)
      (natural?_eq_some_iff.1 (same.symm.trans value.symm))

theorem mem_values_iff (denoted : List.Forall₂ Denotes texts values) :
    n ∈ values ↔ ∃ t ∈ texts, natural? t = some n := by
  have mapped := forall₂_denotes_iff.1 denoted
  rw [← List.mem_map, mapped, List.mem_map_of_injective (Option.some_injective ℕ)]

theorem exists_values_iff :
    (∃ values, List.Forall₂ Denotes texts values) ↔ ∀ t ∈ texts, (natural? t).isSome := by
  have denotes_eq : Denotes = fun t n => natural? t = some n :=
    funext₂ fun t n => propext natural?_eq_some_iff.symm
  rw [denotes_eq]
  simp only [Fileset.forall₂_some_iff, exists_and_left, exists_eq', and_true,
    Option.isSome_iff_exists]

theorem numberFaults_eq_nil_iff_values :
    numberFaults texts = [] ↔
      texts.Nodup ∧ ∃ values, List.Forall₂ Denotes texts values ∧
        ∃ count, ∀ n, n ∈ values ↔ 1 ≤ n ∧ n < 1 + count := by
  rw [numberFaults_eq_nil_iff, ← exists_values_iff]
  refine and_congr_right fun _ => ?_
  constructor
  · rintro ⟨⟨values, denoted⟩, count, members⟩
    exact ⟨values, denoted, count, fun n => (mem_values_iff denoted).trans (members n)⟩
  · rintro ⟨values, denoted, count, members⟩
    exact ⟨⟨values, denoted⟩, count, fun n => (mem_values_iff denoted).symm.trans (members n)⟩

theorem enumerated_iff :
    Enumerated texts ↔ numberFaults texts = [] ∧ SpelledOnce texts := by
  rw [numberFaults_eq_nil_iff_values]
  constructor
  · rintro ⟨values, denoted, perm⟩
    obtain ⟨nodup, once⟩ := (nodup_values_iff denoted).1 (perm.nodup_iff.2 List.nodup_range')
    refine ⟨⟨nodup, values, denoted, texts.length, fun n => ?_⟩, once⟩
    rw [perm.mem_iff, List.mem_range'_1]
  · rintro ⟨⟨nodup, values, denoted, count, members⟩, once⟩
    have distinct := (nodup_values_iff denoted).2 ⟨nodup, once⟩
    have perm : values.Perm (List.range' 1 count) :=
      (List.perm_ext_iff_of_nodup distinct List.nodup_range').2 fun n => by
        rw [members, List.mem_range'_1]
    have count_eq : texts.length = count := by
      rw [denoted.length_eq, perm.length_eq, List.length_range']
    exact ⟨values, denoted, count_eq ▸ perm⟩

theorem not_repeated_iff :
    ¬ Repeated texts ↔ texts.Pairwise fun s t => ∀ n, Denotes s n → ¬ Denotes t n := by
  rw [List.pairwise_iff_forall_sublist]
  constructor
  · exact fun once s t inside n first second => once ⟨s, t, n, inside, first, second⟩
  · rintro apart ⟨s, t, n, inside, first, second⟩
    exact apart inside n first second

theorem repeated_iff_of_nodup (nodup : texts.Nodup) : Repeated texts ↔ ¬ SpelledOnce texts := by
  rw [← not_iff_not, not_not, not_repeated_iff]
  constructor
  · intro apart s s_in t t_in n first second
    have turned : Std.Symm fun s t => ∀ n, Denotes s n → ¬ Denotes t n :=
      ⟨fun s t apart n first second => apart n second first⟩
    by_contra differ
    exact apart.forall s_in t_in differ n first second
  · intro once
    refine nodup.pairwise_of_forall_ne fun s s_in t t_in differ n first second => differ ?_
    exact once s s_in t t_in n first second

theorem begins_twiceMessage (texts : List String) :
    ∃ rest, twiceMessage texts = "Duplicate episode numbers " ++ rest := by
  unfold twiceMessage
  simp only [String.append_assoc]
  exact ⟨_, rfl⟩

theorem twiceMessage_ne {lead rest : String}
    (apart : ¬ lead.toList <+: "Duplicate episode numbers ".toList)
    (apart' : ¬ "Duplicate episode numbers ".toList <+: lead.toList) :
    twiceMessage texts ≠ lead ++ rest := by
  obtain ⟨tail, said⟩ := begins_twiceMessage texts
  rw [said]
  exact Fileset.ne_of_leads apart' apart

theorem exists_other_faults (texts : List String) :
    ∃ once others, (once = true ↔ texts.Nodup) ∧
      numberFaults texts = Journal.faultUnless once none (twiceMessage texts) ++ others ∧
      ∀ f ∈ others, f.message ≠ twiceMessage texts := by
  refine ⟨_, _, beq_iff_eq.trans Sorting.length_sorted_eq_iff, rfl, fun f member => ?_⟩
  rcases List.mem_append.1 member with undecimal | gap
  · rw [Journal.eq_of_mem_faultUnless undecimal]
    exact (twiceMessage_ne (by decide) (by decide)).symm
  · rw [Journal.eq_of_mem_faultUnless gap]
    exact (twiceMessage_ne (by decide) (by decide)).symm

theorem twice_mem_numberFaults_iff :
    ⟨none, twiceMessage texts⟩ ∈ numberFaults texts ↔ ¬ texts.Nodup := by
  obtain ⟨once, others, once_iff, faults_eq, apart⟩ := exists_other_faults texts
  have not_other : ⟨none, twiceMessage texts⟩ ∉ others := fun member => apart _ member rfl
  rw [faults_eq, List.mem_append, or_iff_left not_other, ← once_iff]
  cases once <;> simp [Journal.faultUnless]

/-- The numbers from one to as many as there are pass the check in every order. Nothing else passes
it and every number that comes twice is found, exactly if a text comes twice or each number comes in
one spelling. -/
theorem enumeration_judged_iff (texts : List String) (j : Journal) :
    let found := (checkNumbers texts .empty).findings
    (checkNumbers texts j).findings = j.findings ++ found ∧
    (found = [] ↔ texts.Nodup ∧ ∃ values, List.Forall₂ Denotes texts values ∧
      ∃ count, ∀ n, n ∈ values ↔ 1 ≤ n ∧ n < 1 + count) ∧
    (Enumerated texts ↔ found = [] ∧ SpelledOnce texts) ∧
    (((found = [] ↔ Enumerated texts) ∧
        (Repeated texts → ⟨none, twiceMessage texts⟩ ∈ found)) ↔
      (texts.Nodup → SpelledOnce texts)) := by
  have found_eq : (checkNumbers texts .empty).findings = numberFaults texts := by
    simp [checkNumbers_findings, Journal.empty]
  intro found
  simp only [found, found_eq, twice_mem_numberFaults_iff]
  refine ⟨checkNumbers_findings texts j, numberFaults_eq_nil_iff_values, enumerated_iff, ?_⟩
  constructor
  · rintro ⟨-, reported⟩ nodup
    by_contra spelled
    exact reported ((repeated_iff_of_nodup nodup).2 spelled) nodup
  · intro once
    refine ⟨?_, fun again nodup => (repeated_iff_of_nodup nodup).1 again (once nodup)⟩
    rw [enumerated_iff, iff_self_and]
    exact fun silent => once (numberFaults_eq_nil_iff_values.1 silent).1

theorem two_spellings_pass :
    (checkNumbers ["1", "01"] .empty).findings = [] ∧ ¬ Enumerated ["1", "01"] ∧
      Repeated ["1", "01"] := by
  have first : Denotes "1" 1 := natural?_eq_some_iff.1 (by decide)
  have second : Denotes "01" 1 := natural?_eq_some_iff.1 (by decide)
  have silent : numberFaults ["1", "01"] = [] := by
    rw [numberFaults_eq_nil_iff_values]
    refine ⟨by decide, [1, 1], .cons first (.cons second .nil), 1, fun n => ?_⟩
    simp only [List.mem_cons, List.not_mem_nil, or_false]
    omega
  refine ⟨?_, ?_, "1", "01", 1, List.Sublist.refl _, first, second⟩
  · simp [checkNumbers_findings, Journal.empty, silent]
  · rw [enumerated_iff]
    rintro ⟨-, once⟩
    exact absurd (once "1" (by simp) "01" (by simp) 1 first second) (by decide)

end LessonAudit.Episode
