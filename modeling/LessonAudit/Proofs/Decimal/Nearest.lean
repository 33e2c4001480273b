import LessonAudit.Decimal.Double
import Mathlib.Algebra.Order.Field.Power
import Mathlib.Algebra.Order.Field.Rat
import Mathlib.Tactic.FieldSimp
import Mathlib.Tactic.Linarith
import Mathlib.Tactic.NormNum
import Mathlib.Tactic.Positivity
import Mathlib.Tactic.Ring
set_option autoImplicit false

namespace LessonAudit.Decimal

variable {num den r : Nat} {q t : ℚ} {e : Int}

structure RoundsTo (t : ℚ) (r : Nat) : Prop where
  close : |t - r| ≤ 1 / 2
  even : |t - r| = 1 / 2 → r % 2 = 0

theorem RoundsTo.down {part : ℚ} (nonneg : 0 ≤ part) (less : part < 1 / 2) :
    RoundsTo (r + part) r := by
  have distance : |r + part - r| = part := by
    rw [add_sub_cancel_left, abs_of_nonneg nonneg]
  rw [← distance] at less
  exact ⟨less.le, fun tie => absurd tie less.ne⟩

theorem RoundsTo.up {part : ℚ} (more : 1 / 2 < part) (less : part < 1) :
    RoundsTo (r + part) (r + 1) := by
  have distance : |r + part - (r + 1 : Nat)| = 1 - part := by
    rw [abs_of_nonpos (by push_cast; linarith)]
    push_cast
    ring
  have close : |r + part - (r + 1 : Nat)| < 1 / 2 := by
    rw [distance]
    linarith
  exact ⟨close.le, fun tie => absurd tie close.ne⟩

theorem RoundsTo.half : RoundsTo (r + 1 / 2) (r + r % 2) := by
  refine ⟨?_, fun _ => by omega⟩
  rcases Nat.mod_two_eq_zero_or_one r with parity | parity <;> rw [parity] <;> push_cast
  · rw [abs_of_nonneg (by linarith)]
    linarith
  · rw [abs_of_nonpos (by linarith)]
    linarith

theorem roundsTo_roundDiv (positive : 0 < den) : RoundsTo (num / den : ℚ) (roundDiv num den) := by
  have den_pos : (0 : ℚ) < den := Nat.cast_pos.2 positive
  have fraction : (num / den : ℚ) = (num / den : Nat) + (num % den : Nat) / den := by
    have cut : (den : ℚ) * (num / den : Nat) + (num % den : Nat) = num := by
      exact_mod_cast Nat.div_add_mod num den
    field_simp
    linarith
  have rest_small : num % den < den := Nat.mod_lt num positive
  unfold roundDiv
  rw [fraction]
  dsimp only
  generalize num % den = rest at rest_small ⊢
  have part_nonneg : (0 : ℚ) ≤ rest / den := by positivity
  have part_small : (rest / den : ℚ) < 1 := by
    rw [div_lt_one den_pos]
    exact_mod_cast rest_small
  rcases lt_trichotomy (2 * rest) den with less | half | more
  · rw [if_pos less]
    refine .down part_nonneg ?_
    rw [div_lt_div_iff₀ den_pos two_pos]
    exact_mod_cast (by omega : rest * 2 < 1 * den)
  · rw [if_neg half.not_lt, if_neg half.not_gt]
    have part_eq : (rest / den : ℚ) = 1 / 2 := by
      rw [div_eq_div_iff den_pos.ne' two_ne_zero]
      exact_mod_cast (by omega : rest * 2 = 1 * den)
    rw [part_eq]
    exact .half
  · rw [if_neg more.not_gt, if_pos more]
    refine .up ?_ part_small
    rw [div_lt_div_iff₀ two_pos den_pos]
    exact_mod_cast (by omega : 1 * den < rest * 2)

theorem RoundsTo.half_le {k : Nat} (rounds : RoundsTo t r) (other : k ≠ r) :
    1 / 2 ≤ |t - k| := by
  have apart : (1 : ℚ) ≤ |(r : ℚ) - k| := by
    have whole : (1 : Int) ≤ |(r : Int) - k| := Int.one_le_abs (by omega)
    exact_mod_cast whole
  have triangle : |(r : ℚ) - k| ≤ |t - r| + |t - k| := by
    rw [abs_sub_comm t r]
    have := abs_add_le ((r : ℚ) - t) (t - k)
    rwa [sub_add_sub_cancel] at this
  linarith [rounds.close]

theorem RoundsTo.nearest (rounds : RoundsTo t r) (k : Nat) : |t - r| ≤ |t - k| := by
  by_cases same : k = r
  · rw [same]
  · exact rounds.close.trans (rounds.half_le same)

theorem RoundsTo.even_of_tie {k : Nat} (rounds : RoundsTo t r) (other : k ≠ r)
    (tie : |t - k| = |t - r|) : r % 2 = 0 :=
  rounds.even (le_antisymm rounds.close (tie ▸ rounds.half_le other))

namespace Double

variable {x y : Double}

def value (x : Double) : ℚ :=
  x.mantissa * 2 ^ x.exponent

structure Canonical (x : Double) : Prop where
  small : x.mantissa < 2 ^ 53
  full : 2 ^ 52 ≤ x.mantissa ∨ x.exponent = -1074
  least : -1074 ≤ x.exponent
  most : x.exponent ≤ 971

-- The double without a sign that is nearest to a number, the even one of two that are as near. From
-- the middle between the largest double and the next power of two on there is none.
structure Nearest (q : ℚ) (x : Double) : Prop where
  unsigned : x.negative = false
  canonical : x.Canonical
  reached : q < 2 ^ 1024 - 2 ^ 970
  nearest : ∀ y : Double, y.Canonical → |q - x.value| ≤ |q - y.value|
  even : ∀ y : Double, y.Canonical → y.value ≠ x.value → |q - y.value| = |q - x.value| →
    x.mantissa % 2 = 0

theorem value_nonneg (x : Double) : 0 ≤ x.value := by
  unfold value
  positivity

theorem unscaled_positive (positive : 0 < den) : 0 < (unscaled num den e).2 := by
  unfold unscaled
  dsimp only
  split
  · exact positive
  · exact Nat.mul_pos positive (Nat.pow_pos two_pos)

theorem unscaled_eq (num den : Nat) (e : Int) :
    ((unscaled num den e).1 / (unscaled num den e).2 : ℚ) = num / den / 2 ^ e := by
  unfold unscaled
  dsimp only
  split
  · next below =>
      obtain ⟨n, rfl⟩ := Int.exists_eq_neg_ofNat below.le
      simp only [Int.natAbs_neg, Int.natAbs_natCast, zpow_neg, zpow_natCast, Nat.pow_eq]
      push_cast
      field_simp
  · next above =>
      obtain ⟨n, rfl⟩ := Int.eq_ofNat_of_zero_le (not_lt.1 above)
      simp only [Int.natAbs_natCast, zpow_natCast, Nat.pow_eq]
      push_cast
      rw [div_div]

theorem two_zpow_pos (e : Int) : (0 : ℚ) < 2 ^ e :=
  zpow_pos two_pos e

theorem two_zpow_succ (e : Int) : (2 : ℚ) ^ (e + 1) = 2 * 2 ^ e := by
  rw [zpow_add_one₀ two_ne_zero, mul_comm]

theorem ratio_bounds (some_num : 0 < num) (some_den : 0 < den) :
    let low : Int := (num.log2 : Int) - den.log2 - 53
    (2 ^ 52 * 2 ^ low : ℚ) ≤ num / den ∧ (num / den : ℚ) < 2 ^ 54 * 2 ^ low := by
  intro low
  have den_pos : (0 : ℚ) < den := Nat.cast_pos.2 some_den
  have num_least : (2 ^ num.log2 : ℚ) ≤ num := by exact_mod_cast Nat.log2_self_le some_num.ne'
  have num_most : (num : ℚ) < 2 ^ num.log2 * 2 := by exact_mod_cast Nat.lt_log2_self
  have den_least : (2 ^ den.log2 : ℚ) ≤ den := by exact_mod_cast Nat.log2_self_le some_den.ne'
  have den_most : (den : ℚ) < 2 ^ den.log2 * 2 := by exact_mod_cast Nat.lt_log2_self
  have power : (2 ^ low * 2 ^ 53 * 2 ^ den.log2 : ℚ) = 2 ^ num.log2 := by
    have sum : low + 53 + den.log2 = num.log2 := by simp only [low]; omega
    rw [← zpow_natCast 2 num.log2, ← sum, zpow_add₀ two_ne_zero, zpow_add₀ two_ne_zero, zpow_natCast]
    norm_cast
  have low_pos : (0 : ℚ) < 2 ^ low := zpow_pos two_pos low
  rw [le_div_iff₀ den_pos, div_lt_iff₀ den_pos]
  constructor
  · calc (2 ^ 52 * 2 ^ low * den : ℚ) ≤ 2 ^ 52 * 2 ^ low * (2 ^ den.log2 * 2) := by gcongr
      _ = 2 ^ num.log2 := by rw [← power]; ring
      _ ≤ num := num_least
  · calc (num : ℚ) < 2 ^ num.log2 * 2 := num_most
      _ = 2 ^ 54 * 2 ^ low * 2 ^ den.log2 := by rw [← power]; ring
      _ ≤ 2 ^ 54 * 2 ^ low * den := by gcongr

theorem exists_multiple (higher : e ≤ y.exponent) : ∃ k : Nat, y.value = k * 2 ^ e := by
  obtain ⟨n, gap⟩ := Int.eq_ofNat_of_zero_le (sub_nonneg.2 higher)
  refine ⟨y.mantissa * 2 ^ n, ?_⟩
  have exponent_eq : y.exponent = n + e := by omega
  rw [value, exponent_eq, zpow_add₀ two_ne_zero, zpow_natCast]
  push_cast
  ring

theorem exponentFor_spec (some_num : 0 < num) (some_den : 0 < den) :
    -1074 ≤ exponentFor num den ∧ (num / den : ℚ) < 2 ^ 53 * 2 ^ exponentFor num den ∧
      (2 ^ 52 * 2 ^ exponentFor num den ≤ (num / den : ℚ) ∨ exponentFor num den = -1074) := by
  obtain ⟨least, most⟩ := ratio_bounds some_num some_den
  unfold exponentFor
  dsimp only
  generalize (num.log2 : Int) - den.log2 - 53 = low at least most ⊢
  have scaled := unscaled_eq num den low
  have scaled_pos : 0 < (unscaled num den low).2 := unscaled_positive some_den
  rcases cut : unscaled num den low with ⟨n, d⟩
  rw [cut] at scaled scaled_pos
  dsimp only at scaled scaled_pos ⊢
  have low_pos : (0 : ℚ) < 2 ^ low := two_zpow_pos low
  have d_pos : (0 : ℚ) < d := Nat.cast_pos.2 scaled_pos
  have below_iff : n / d < mantissaLimit ↔ (num / den : ℚ) < 2 ^ 53 * 2 ^ low := by
    rw [Nat.div_lt_iff_lt_mul scaled_pos, ← div_lt_iff₀ low_pos, ← scaled, div_lt_iff₀ d_pos]
    norm_cast
  have fitting : ∃ top : Int, (if n / d < mantissaLimit then low else low + 1) = top ∧
      2 ^ 52 * 2 ^ top ≤ (num / den : ℚ) ∧ (num / den : ℚ) < 2 ^ 53 * 2 ^ top := by
    split
    · next below => exact ⟨low, rfl, least, below_iff.1 below⟩
    · next above =>
        have reached := le_of_not_gt (mt below_iff.2 above)
        refine ⟨low + 1, rfl, ?_, ?_⟩ <;> rw [two_zpow_succ] <;> linarith
  obtain ⟨top, top_eq, top_least, top_most⟩ := fitting
  rw [top_eq]
  by_cases normal : -1074 ≤ top
  · rw [max_eq_left normal]
    exact ⟨normal, top_most, .inl top_least⟩
  · have tiny : top ≤ -1074 := le_of_not_ge normal
    rw [max_eq_right tiny]
    have larger : (2 : ℚ) ^ top ≤ 2 ^ (-1074 : Int) := zpow_le_zpow_right₀ one_le_two tiny
    exact ⟨le_rfl, top_most.trans_le (by gcongr), .inr rfl⟩

structure Rounded (q : ℚ) (mantissa : Nat) (e : Int) : Prop where
  least : -1074 ≤ e
  small : q < 2 ^ 53 * 2 ^ e
  full : 2 ^ 52 * 2 ^ e ≤ q ∨ e = -1074
  rounds : RoundsTo (q / 2 ^ e) mantissa

def carried (mantissa : Nat) (e : Int) : Double :=
  if mantissa = mantissaLimit then ⟨false, mantissaLeast, e + 1⟩ else ⟨false, mantissa, e⟩

namespace Rounded

variable {mantissa : Nat}

theorem value_carried (mantissa : Nat) (e : Int) :
    (carried mantissa e).value = mantissa * 2 ^ e := by
  unfold carried value
  split
  · next full =>
      rw [full, two_zpow_succ]
      norm_num [mantissaLimit, mantissaLeast]
      ring
  · rfl

theorem le_limit (rounded : Rounded q mantissa e) : mantissa ≤ 2 ^ 53 := by
  have scaled : q / 2 ^ e < 2 ^ 53 := (div_lt_iff₀ (two_zpow_pos e)).2 rounded.small
  have close := (abs_le.1 rounded.rounds.close).1
  generalize q / 2 ^ e = t at scaled close
  have short : (mantissa : ℚ) < (2 ^ 53 + 1 : Nat) := by
    push_cast
    linarith
  exact Nat.lt_succ_iff.1 (Nat.cast_lt.1 short)

theorem limit_le (rounded : Rounded q mantissa e) (normal : e ≠ -1074) : 2 ^ 52 ≤ mantissa := by
  have scaled : 2 ^ 52 ≤ q / 2 ^ e :=
    (le_div_iff₀ (two_zpow_pos e)).2 (rounded.full.resolve_right normal)
  have close := (abs_le.1 rounded.rounds.close).2
  generalize q / 2 ^ e = t at scaled close
  have long : ((2 ^ 52 : Nat) : ℚ) < (mantissa + 1 : Nat) := by
    push_cast
    linarith
  exact Nat.lt_succ_iff.1 (Nat.cast_lt.1 long)

theorem canonical (rounded : Rounded q mantissa e) (most : (carried mantissa e).exponent ≤ 971) :
    (carried mantissa e).Canonical := by
  have limit := rounded.le_limit
  have least := rounded.least
  by_cases full : mantissa = mantissaLimit
  · have carried_eq : carried mantissa e = ⟨false, mantissaLeast, e + 1⟩ := if_pos full
    rw [carried_eq] at most ⊢
    have least_small : mantissaLeast < 2 ^ 53 := by decide
    have least_full : 2 ^ 52 ≤ mantissaLeast := by decide
    exact ⟨least_small, .inl least_full, by dsimp only; omega, most⟩
  · have carried_eq : carried mantissa e = ⟨false, mantissa, e⟩ := if_neg full
    rw [carried_eq] at most ⊢
    have short : mantissa ≠ 2 ^ 53 := full
    refine ⟨by dsimp only; omega, ?_, least, most⟩
    by_cases tiny : e = -1074
    · exact .inr tiny
    · exact .inl (rounded.limit_le tiny)

theorem even_carried (even : mantissa % 2 = 0) : (carried mantissa e).mantissa % 2 = 0 := by
  unfold carried
  split
  · exact (by decide : mantissaLeast % 2 = 0)
  · exact even

theorem distance (q : ℚ) (k : Nat) (e : Int) : |q - k * 2 ^ e| = |q / 2 ^ e - k| * 2 ^ e := by
  have power_pos := two_zpow_pos e
  have factored : q - k * 2 ^ e = (q / 2 ^ e - k) * 2 ^ e := by
    rw [sub_mul, div_mul_cancel₀ _ power_pos.ne']
  rw [factored, abs_mul, abs_of_pos power_pos]

theorem multiple_or_below (rounded : Rounded q mantissa e) (canonical : y.Canonical) :
    (∃ k : Nat, y.value = k * 2 ^ e) ∨ (y.value < 2 ^ 52 * 2 ^ e ∧ 2 ^ 52 * 2 ^ e ≤ q) := by
  by_cases higher : e ≤ y.exponent
  · exact .inl (exists_multiple higher)
  · have least := canonical.least
    have normal : e ≠ -1074 := by omega
    refine .inr ⟨?_, rounded.full.resolve_right normal⟩
    have small : (y.mantissa : ℚ) < 2 ^ 53 := by exact_mod_cast canonical.small
    have lower : (2 : ℚ) ^ (y.exponent + 1) ≤ 2 ^ e := zpow_le_zpow_right₀ one_le_two (by omega)
    rw [two_zpow_succ] at lower
    have power_pos := two_zpow_pos y.exponent
    calc y.value < 2 ^ 53 * 2 ^ y.exponent := by unfold value; gcongr
      _ = 2 ^ 52 * (2 * 2 ^ y.exponent) := by ring
      _ ≤ 2 ^ 52 * 2 ^ e := by gcongr

theorem nearest_or_even (rounded : Rounded q mantissa e) (canonical : y.Canonical) :
    |q - (carried mantissa e).value| ≤ |q - y.value| ∧
      (y.value ≠ (carried mantissa e).value → |q - y.value| = |q - (carried mantissa e).value| →
        (carried mantissa e).mantissa % 2 = 0) := by
  have power_pos := two_zpow_pos e
  rw [value_carried, distance q mantissa e]
  rcases rounded.multiple_or_below canonical with ⟨k, value_eq⟩ | ⟨below, least⟩
  · rw [value_eq, distance q k e]
    have nearest := rounded.rounds.nearest k
    refine ⟨mul_le_mul_of_nonneg_right nearest power_pos.le, fun other tie => even_carried ?_⟩
    have different : k ≠ mantissa := by
      rintro rfl
      exact other rfl
    exact rounded.rounds.even_of_tie different (mul_right_cancel₀ power_pos.ne' tie)
  · -- the least multiple with 53 bits is nearer
    have nearer : |q / 2 ^ e - mantissa| * 2 ^ e < |q - y.value| := by
      have farther := rounded.rounds.nearest (2 ^ 52)
      calc |q / 2 ^ e - mantissa| * 2 ^ e ≤ |q / 2 ^ e - (2 ^ 52 : Nat)| * 2 ^ e :=
            mul_le_mul_of_nonneg_right farther power_pos.le
        _ = |q - (2 ^ 52 : Nat) * 2 ^ e| := (distance q _ e).symm
        _ = q - 2 ^ 52 * 2 ^ e := by
            push_cast
            exact abs_of_nonneg (sub_nonneg.2 least)
        _ < q - y.value := by linarith
        _ ≤ |q - y.value| := le_abs_self _
    exact ⟨nearer.le, fun _ tie => absurd tie.symm nearer.ne⟩

theorem limit_eq : (2 ^ 1024 - 2 ^ 970 : ℚ) = (2 ^ 54 - 1) * 2 ^ (970 : Int) := by
  have power : (2 ^ 1024 : ℚ) = 2 ^ 54 * 2 ^ 970 := (pow_add 2 54 970)
  have same : (2 : ℚ) ^ (970 : Int) = 2 ^ 970 := zpow_natCast 2 970
  rw [power, same, sub_one_mul]

theorem lt_of_not_full (rounds : RoundsTo t mantissa) (short : mantissa < 2 ^ 53) :
    t < 2 ^ 53 - 1 / 2 := by
  have close := (abs_le.1 rounds.close).2
  rcases Nat.lt_or_ge mantissa (2 ^ 53 - 1) with less | top
  · have less_rat : (mantissa + 1 : ℚ) < 2 ^ 53 := by exact_mod_cast (by omega : mantissa + 1 < 2 ^ 53)
    linarith
  · have mantissa_eq : mantissa = 2 ^ 53 - 1 := by omega
    have mantissa_rat : (mantissa : ℚ) = 2 ^ 53 - 1 := by rw [mantissa_eq]; norm_num
    rcases close.lt_or_eq with strict | tie
    · linarith
    · have even := rounds.even (by rw [tie]; norm_num)
      omega

theorem reached_iff (rounded : Rounded q mantissa e) :
    (carried mantissa e).exponent ≤ 971 ↔ q < 2 ^ 1024 - 2 ^ 970 := by
  have limit := rounded.le_limit
  have small := rounded.small
  rw [limit_eq]
  have unit_pos := two_zpow_pos 970
  have unit_succ : (2 : ℚ) ^ (971 : Int) = 2 * 2 ^ (970 : Int) := two_zpow_succ 970
  rcases lt_trichotomy e 971 with low | rfl | high
  · refine iff_of_true ?_ ?_
    · unfold carried
      split <;> dsimp only <;> omega
    · have bounded : (2 : ℚ) ^ e ≤ 2 ^ (970 : Int) := zpow_le_zpow_right₀ one_le_two (by omega)
      generalize (2 : ℚ) ^ (970 : Int) = unit at bounded unit_pos ⊢
      linarith
  · by_cases full : mantissa = 2 ^ 53
    · have close := (abs_le.1 rounded.rounds.close).1
      have carried_eq : carried mantissa 971 = ⟨false, mantissaLeast, 972⟩ := if_pos full
      rw [carried_eq]
      refine iff_of_false (by decide) (not_lt.2 ?_)
      have scaled : 2 ^ 53 - 1 / 2 ≤ q / 2 ^ (971 : Int) := by
        generalize q / 2 ^ (971 : Int) = t at close ⊢
        rw [full] at close
        push_cast at close
        linarith
      rw [le_div_iff₀ (two_zpow_pos 971), unit_succ] at scaled
      generalize (2 : ℚ) ^ (970 : Int) = unit at scaled ⊢
      linarith
    · have carried_eq : carried mantissa 971 = ⟨false, mantissa, 971⟩ := if_neg full
      rw [carried_eq]
      refine iff_of_true le_rfl ?_
      have scaled := lt_of_not_full rounded.rounds (by omega)
      rw [div_lt_iff₀ (two_zpow_pos 971), unit_succ] at scaled
      generalize (2 : ℚ) ^ (970 : Int) = unit at scaled ⊢
      linarith
  · refine iff_of_false ?_ (not_lt.2 ?_)
    · unfold carried
      split <;> dsimp only <;> omega
    · have full := rounded.full.resolve_right (by omega)
      have larger : (2 : ℚ) ^ (971 + 1 : Int) ≤ 2 ^ e := zpow_le_zpow_right₀ one_le_two (by omega)
      rw [two_zpow_succ, unit_succ] at larger
      generalize (2 : ℚ) ^ (970 : Int) = unit at larger unit_pos ⊢
      linarith

theorem nearest (rounded : Rounded q mantissa e) (reached : q < 2 ^ 1024 - 2 ^ 970) :
    Nearest q (carried mantissa e) where
  unsigned := by unfold carried; split <;> rfl
  canonical := rounded.canonical (rounded.reached_iff.2 reached)
  reached
  nearest y canonical := (rounded.nearest_or_even canonical).1
  even y canonical := (rounded.nearest_or_even canonical).2

end Rounded

theorem exists_rounded (some_num : 0 < num) (some_den : 0 < den) :
    ∃ mantissa e, Rounded (num / den) mantissa e ∧
      ofRatio? num den =
        if (carried mantissa e).exponent > 971 then none else some (carried mantissa e) := by
  obtain ⟨least, small, full⟩ := exponentFor_spec some_num some_den
  refine ⟨roundDiv (unscaled num den (exponentFor num den)).1 (unscaled num den (exponentFor num den)).2,
    exponentFor num den, ⟨least, small, full, ?_⟩, ?_⟩
  · rw [← unscaled_eq]
    exact roundsTo_roundDiv (unscaled_positive some_den)
  · unfold ofRatio? carried
    rw [if_neg some_num.ne']

theorem Canonical.lt_of_exponent_lt (first : x.Canonical) (second : y.Canonical)
    (lower : x.exponent < y.exponent) : x.value < y.value := by
  have least := first.least
  have full : (2 ^ 52 : ℚ) ≤ y.mantissa := by exact_mod_cast second.full.resolve_right (by omega)
  have small : (x.mantissa : ℚ) < 2 ^ 53 := by exact_mod_cast first.small
  have lower_power : (2 : ℚ) ^ (x.exponent + 1) ≤ 2 ^ y.exponent :=
    zpow_le_zpow_right₀ one_le_two (by omega)
  rw [two_zpow_succ] at lower_power
  have power_pos := two_zpow_pos x.exponent
  unfold value
  calc (x.mantissa * 2 ^ x.exponent : ℚ) < 2 ^ 53 * 2 ^ x.exponent := by gcongr
    _ = 2 ^ 52 * (2 * 2 ^ x.exponent) := by ring
    _ ≤ y.mantissa * 2 ^ y.exponent := by gcongr

theorem Canonical.exponent_eq (first : x.Canonical) (second : y.Canonical)
    (same : x.value = y.value) : x.exponent = y.exponent := by
  rcases lt_trichotomy x.exponent y.exponent with lower | same_place | lower
  · exact absurd same (first.lt_of_exponent_lt second lower).ne
  · exact same_place
  · exact absurd same (second.lt_of_exponent_lt first lower).ne'

theorem Canonical.mantissa_eq (first : x.Canonical) (second : y.Canonical)
    (same : x.value = y.value) : x.mantissa = y.mantissa := by
  have exponent_eq := first.exponent_eq second same
  rw [value, value, exponent_eq] at same
  exact_mod_cast mul_right_cancel₀ (two_zpow_pos y.exponent).ne' same

theorem Canonical.eq_of_value_eq (first : x.Canonical) (second : y.Canonical)
    (same_sign : x.negative = y.negative) (same : x.value = y.value) : x = y := by
  have exponent_eq := first.exponent_eq second same
  have mantissa_eq := first.mantissa_eq second same
  cases x
  cases y
  simp_all

theorem Canonical.odd_between (first : x.Canonical) (second : y.Canonical) (less : x.value < y.value)
    (even : x.mantissa % 2 = 0) (other_even : y.mantissa % 2 = 0) :
    ∃ z : Double, z.Canonical ∧ x.value < z.value ∧ z.value < y.value := by
  have small := first.small
  have next : Canonical ⟨false, x.mantissa + 1, x.exponent⟩ := by
    refine ⟨by dsimp only; omega, ?_, first.least, first.most⟩
    rcases first.full with full | tiny
    · exact .inl (by dsimp only; omega)
    · exact .inr tiny
  have power_pos := two_zpow_pos x.exponent
  have next_value : value ⟨false, x.mantissa + 1, x.exponent⟩ = x.value + 2 ^ x.exponent := by
    unfold value
    push_cast
    ring
  refine ⟨_, next, by rw [next_value]; linarith, ?_⟩
  rw [next_value]
  by_contra above
  rcases (not_lt.1 above).lt_or_eq with inside | reached
  · by_cases higher : x.exponent ≤ y.exponent
    · -- no multiple of the last place lies between two that follow each other
      obtain ⟨k, value_eq⟩ := exists_multiple higher
      have factored : x.value + 2 ^ x.exponent = (x.mantissa + 1 : Nat) * 2 ^ x.exponent := by
        rw [← next_value]
        rfl
      rw [value_eq, factored, mul_lt_mul_iff_left₀ power_pos, Nat.cast_lt] at inside
      rw [value_eq, value, mul_lt_mul_iff_left₀ power_pos, Nat.cast_lt] at less
      omega
    · exact absurd (second.lt_of_exponent_lt first (not_le.1 higher)) less.not_gt
  · have mantissa_eq : y.mantissa = x.mantissa + 1 :=
      second.mantissa_eq next (reached.trans next_value.symm)
    omega

theorem Nearest.value_le (first : Nearest q x) (second : Nearest q y) : y.value ≤ x.value := by
  by_contra above
  have less : x.value < y.value := not_le.1 above
  have tie : |q - x.value| = |q - y.value| :=
    le_antisymm (first.nearest y second.canonical) (second.nearest x first.canonical)
  have even := first.even y second.canonical less.ne' tie.symm
  have other_even := second.even x first.canonical less.ne tie
  obtain ⟨z, canonical, above, below⟩ :=
    first.canonical.odd_between second.canonical less even other_even
  have nearer := first.nearest z canonical
  grind

theorem Nearest.unique (first : Nearest q x) (second : Nearest q y) : x = y := by
  have same_sign : x.negative = y.negative := first.unsigned.trans second.unsigned.symm
  have same : x.value = y.value :=
    le_antisymm (second.value_le first) (first.value_le second)
  exact first.canonical.eq_of_value_eq second.canonical same_sign same

theorem nearest_zero : Nearest 0 zero where
  unsigned := rfl
  canonical := ⟨by decide, .inr rfl, by decide, by decide⟩
  reached := by
    rw [Rounded.limit_eq]
    exact mul_pos (by norm_num) (two_zpow_pos 970)
  nearest y _ := by
    have none : zero.value = 0 := by simp [value, zero]
    rw [none, sub_zero, abs_zero]
    exact abs_nonneg _
  even _ _ _ _ := rfl

theorem ofRatio?_eq_some_iff (some_den : 0 < den) :
    ofRatio? num den = some x ↔ Nearest (num / den) x := by
  by_cases some_num : num = 0
  · have zero_eq : ofRatio? num den = some zero := if_pos some_num
    have nearest : Nearest (num / den) zero := by
      rw [some_num, Nat.cast_zero, zero_div]
      exact nearest_zero
    rw [zero_eq, Option.some_inj]
    constructor
    · rintro rfl
      exact nearest
    · exact nearest.unique
  · obtain ⟨mantissa, e, rounded, ratio_eq⟩ := exists_rounded (Nat.pos_of_ne_zero some_num) some_den
    rw [ratio_eq]
    constructor
    · intro found
      split at found
      · cases found
      · next reached =>
          cases found
          exact rounded.nearest (rounded.reached_iff.1 (not_lt.1 reached))
    · intro nearest
      have reached := rounded.reached_iff.2 nearest.reached
      rw [if_neg (not_lt.2 reached), (rounded.nearest nearest.reached).unique nearest]

end Double
end LessonAudit.Decimal
