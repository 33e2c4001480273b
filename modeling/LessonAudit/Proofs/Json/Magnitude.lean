import LessonAudit.Proofs.Json.Grammar
set_option autoImplicit false

namespace LessonAudit

namespace Decimal.Double

variable {x y power : Double} {q : ℚ} {n num den : Nat}

theorem ratio_positive (x : Double) : 0 < x.ratio.2 :=
  unscaled_positive one_pos

theorem ratio_eq (x : Double) : (x.ratio.1 / x.ratio.2 : ℚ) = x.value := by
  rw [ratio, unscaled_eq, value, Nat.cast_one, div_one, zpow_neg, div_inv_eq_mul]

theorem mul?_eq_some_iff : x.mul? power = some y ↔ Nearest (x.value * power.value) y := by
  have bottom_pos : 0 < x.ratio.2 * power.ratio.2 := Nat.mul_pos x.ratio_positive power.ratio_positive
  have product : ((x.ratio.1 * power.ratio.1 : Nat) / (x.ratio.2 * power.ratio.2 : Nat) : ℚ) =
      x.value * power.value := by
    rw [← ratio_eq, ← ratio_eq, div_mul_div_comm]
    push_cast
    rfl
  rw [← product]
  exact ofRatio?_eq_some_iff bottom_pos

theorem div?_eq (some_power : 0 < power.value) :
    ∃ num den : Nat, 0 < den ∧ (num / den : ℚ) = x.value / power.value ∧
      x.div? power = ofRatio? num den := by
  refine ⟨x.ratio.1 * power.ratio.2, x.ratio.2 * power.ratio.1, ?_, ?_, rfl⟩
  · refine Nat.mul_pos x.ratio_positive (Nat.pos_of_ne_zero fun none => ?_)
    rw [← ratio_eq, none, Nat.cast_zero, zero_div] at some_power
    exact lt_irrefl _ some_power
  · rw [← ratio_eq, ← ratio_eq, div_div_div_eq]
    push_cast
    rfl

theorem exists_ofRatio? (some_den : 0 < den) (reached : (num / den : ℚ) < 2 ^ 1024 - 2 ^ 970) :
    ∃ x, ofRatio? num den = some x := by
  by_cases some_num : num = 0
  · exact ⟨zero, if_pos some_num⟩
  · obtain ⟨mantissa, e, rounded, ratio_eq⟩ := exists_rounded (Nat.pos_of_ne_zero some_num) some_den
    rw [ratio_eq, if_neg (not_lt.2 (rounded.reached_iff.2 reached))]
    exact ⟨_, rfl⟩

theorem Canonical.reached (canonical : x.Canonical) : x.value < 2 ^ 1024 - 2 ^ 970 := by
  have small : (x.mantissa + 1 : ℚ) ≤ 2 ^ 53 := by exact_mod_cast canonical.small
  have most : (2 : ℚ) ^ x.exponent ≤ 2 ^ (970 + 1 : Int) :=
    zpow_le_zpow_right₀ one_le_two canonical.most
  have power_pos := two_zpow_pos x.exponent
  have unit_pos := two_zpow_pos 970
  rw [two_zpow_succ] at most
  rw [Rounded.limit_eq, value]
  generalize (2 : ℚ) ^ x.exponent = place at most power_pos ⊢
  generalize (2 : ℚ) ^ (970 : Int) = unit at most unit_pos ⊢
  calc (x.mantissa * place : ℚ) ≤ (2 ^ 53 - 1) * place := by gcongr; linarith
    _ ≤ (2 ^ 53 - 1) * (2 * unit) := by gcongr
    _ < (2 ^ 54 - 1) * unit := by linarith

theorem Nearest.one_le (nearest : Nearest q x) (large : 1 ≤ q) : 1 ≤ x.value := by
  have one_canonical : Canonical ⟨false, 2 ^ 52, -52⟩ := by
    refine ⟨?_, .inl ?_, ?_, ?_⟩ <;> norm_num
  have one_value : value ⟨false, 2 ^ 52, -52⟩ = 1 := by norm_num [value]
  have nearer := nearest.nearest _ one_canonical
  rw [one_value] at nearer
  by_contra below
  grind

end Decimal.Double

namespace Json

open Decimal (Double)
open Decimal.Double (Nearest)

theorem Divided.unique {x y z : Double} {places : Nat} (first : Divided x places y) (second : Divided x places z) :
    y = z := by
  induction first with
  | last few is_power quotient =>
      cases second with
      | last _ is_power' quotient' =>
          rw [is_power.unique is_power'] at quotient
          exact quotient.unique quotient'
      | zero many | step many => omega
  | zero many none =>
      cases second with
      | last few => omega
      | zero => rfl
      | step _ some => exact absurd none some
  | step many some is_power quotient later ih =>
      cases second with
      | last few => omega
      | zero _ none => exact absurd none some
      | step _ _ is_power' quotient' later' =>
          rw [is_power.unique is_power'] at quotient
          rw [quotient.unique quotient'] at ih
          exact ih later'

namespace Number

variable {x y power : Double} {places start n : Nat} {digits taken rest whole fraction : List Char}
  {exponent : Option Int} {negative : Bool}

theorem largest_power : (10 ^ 308 : ℚ) < 2 ^ 1024 - 2 ^ 970 := by
  have whole : ((10 ^ 308 + 2 ^ 970 : Nat) : ℚ) < (2 ^ 1024 : Nat) :=
    Nat.cast_lt.2 (by decide +kernel)
  simp only [Nat.cast_add, Nat.cast_pow, Nat.cast_ofNat] at whole
  exact lt_sub_iff_add_lt.2 whole

theorem nearest_powerOfTen (few : places ≤ 308) : Nearest (10 ^ places) (powerOfTen places) := by
  have reached : ((Nat.pow 10 places : Nat) / (1 : Nat) : ℚ) < 2 ^ 1024 - 2 ^ 970 := by
    rw [Nat.pow_eq, Nat.cast_pow, Nat.cast_ofNat, Nat.cast_one, div_one]
    exact (pow_le_pow_right₀ (by norm_num) few).trans_lt largest_power
  obtain ⟨power, power_eq⟩ := Double.exists_ofRatio? one_pos reached
  have nearest := (Double.ofRatio?_eq_some_iff one_pos).1 power_eq
  rw [powerOfTen, Double.ofNat, power_eq, Option.getD_some]
  rwa [Nat.pow_eq, Nat.cast_pow, Nat.cast_ofNat, Nat.cast_one, div_one] at nearest

theorem one_le_powerOfTen (few : places ≤ 308) : 1 ≤ (powerOfTen places).value :=
  (nearest_powerOfTen few).one_le (one_le_pow₀ (by norm_num))

theorem nearest_quotient (canonical : x.Canonical) (few : places ≤ 308) :
    Nearest (x.value / (powerOfTen places).value) ((x.div? (powerOfTen places)).getD x) := by
  have power_large := one_le_powerOfTen few
  obtain ⟨num, den, some_den, quotient, div?_eq⟩ :=
    @Double.div?_eq x _ (one_pos.trans_le power_large)
  have reached : (num / den : ℚ) < 2 ^ 1024 - 2 ^ 970 := by
    rw [quotient]
    exact (div_le_self x.value_nonneg power_large).trans_lt canonical.reached
  obtain ⟨y, found⟩ := Double.exists_ofRatio? some_den reached
  rw [div?_eq, found, Option.getD_some, ← quotient]
  exact (Double.ofRatio?_eq_some_iff some_den).1 found

theorem nearest_ofNat (small : n < 2 ^ 64) : Nearest n (Double.ofNat n) := by
  have reached : (n / (1 : Nat) : ℚ) < 2 ^ 1024 - 2 ^ 970 := by
    have bound : (n : ℚ) < 10 ^ 308 :=
      calc (n : ℚ) < 2 ^ 64 := by exact_mod_cast small
        _ ≤ 10 ^ 20 := by norm_num
        _ ≤ 10 ^ 308 := pow_le_pow_right₀ (by norm_num) (by norm_num)
    rw [Nat.cast_one, div_one]
    exact bound.trans largest_power
  obtain ⟨x, found⟩ := Double.exists_ofRatio? one_pos reached
  rw [Double.ofNat, found, Option.getD_some]
  simpa using (Double.ofRatio?_eq_some_iff one_pos).1 found

theorem divided_scaleDown (canonical : x.Canonical) (places : Nat) :
    Divided x places (scaleDown x places) := by
  induction places using Nat.strongRecOn generalizing x with
  | _ places ih =>
      rw [scaleDown]
      split
      · next few => exact .last few (nearest_powerOfTen few) (nearest_quotient canonical few)
      · next many =>
          have many := not_le.1 many
          split
          · next zero => exact .zero many (beq_iff_eq.1 zero)
          · next some =>
              have quotient := nearest_quotient canonical (le_refl 308)
              exact .step many (fun none => some (beq_iff_eq.2 none)) (nearest_powerOfTen le_rfl)
                quotient (ih _ (by omega) quotient.canonical)

theorem divided_iff (canonical : x.Canonical) : Divided x places y ↔ scaleDown x places = y := by
  constructor
  · exact (divided_scaleDown canonical places).unique
  · rintro rfl
    exact divided_scaleDown canonical places

theorem moved_left_iff (canonical : x.Canonical) (some_place : 0 < places) :
    Moved x (-places : Int) y ↔ scaleDown x places = y := by
  rw [← divided_iff canonical]
  refine ⟨fun moved => ?_, .left some_place⟩
  generalize exponent_eq : (-places : Int) = exponent at moved
  cases moved with
  | @left _ places' _ divided =>
      obtain rfl : places' = places := by omega
      exact divided
  | right | zero => omega

theorem moved_right_iff (few : places ≤ 308) :
    Moved x (places : Int) y ↔ x.mul? (powerOfTen places) = some y := by
  rw [Double.mul?_eq_some_iff]
  refine ⟨fun moved => ?_, .right few (nearest_powerOfTen few)⟩
  generalize exponent_eq : (places : Int) = exponent at moved
  cases moved with
  | left | zero => omega
  | @right _ _ places' _ is_power product =>
      obtain rfl : places' = places := by omega
      rwa [is_power.unique (nearest_powerOfTen few)] at product

theorem moved_far_iff (many : 308 < places) :
    Moved x (places : Int) y ↔ x.mantissa = 0 ∧ x = y := by
  constructor
  · intro moved
    generalize exponent_eq : (places : Int) = exponent at moved
    cases moved with
    | left | right => omega
    | zero _ none => exact ⟨none, rfl⟩
  · rintro ⟨none, rfl⟩
    exact .zero many none

theorem scale_eq_some_iff (small : n < 2 ^ 64) {exponent : Int} {z : Double} :
    scale negative n exponent = some z ↔
      ∃ x y, Nearest n x ∧ Moved x exponent y ∧ y.withSign negative = z := by
  have nearest := nearest_ofNat small
  have moved_iff (y : Double) : Moved (Double.ofNat n) exponent y ↔
      (if exponent < 0 then some (scaleDown (Double.ofNat n) exponent.natAbs)
        else if exponent ≤ 308 then (Double.ofNat n).mul? (powerOfTen exponent.natAbs)
        else if (Double.ofNat n).isZero then some (Double.ofNat n)
        else none) = some y := by
    by_cases left : exponent < 0
    · obtain ⟨places, rfl⟩ := Int.exists_eq_neg_ofNat left.le
      rw [if_pos left, moved_left_iff nearest.canonical (by omega), Int.natAbs_neg,
        Int.natAbs_natCast, Option.some_inj]
    · obtain ⟨places, rfl⟩ := Int.eq_ofNat_of_zero_le (not_lt.1 left)
      rw [if_neg left, Int.natAbs_natCast]
      by_cases few : places ≤ 308
      · rw [if_pos (by omega), moved_right_iff few]
      · rw [if_neg (by omega), moved_far_iff (by omega)]
        simp [Double.isZero]
  simp only [scale, Option.map_eq_some_iff, ← moved_iff]
  constructor
  · rintro ⟨y, moved, rfl⟩
    exact ⟨_, y, nearest, moved, rfl⟩
  · rintro ⟨x, y, is_nearest, moved, rfl⟩
    rw [is_nearest.unique nearest] at moved
    exact ⟨y, moved, rfl⟩

theorem le_decimalFrom (start : Nat) (digits : List Char) : start ≤ decimalFrom start digits := by
  induction digits generalizing start with
  | nil => exact Nat.le_refl _
  | cons d digits ih =>
      have later := ih (start * 10 + (d.toNat - '0'.toNat))
      unfold decimalFrom at later ⊢
      rw [List.foldl_cons]
      omega

theorem gather_of_taken (is_taken : Taken start digits taken rest) :
    gather start digits = (decimalFrom start taken, rest.length) := by
  obtain ⟨rfl, fits, full⟩ := is_taken
  induction taken generalizing start with
  | nil =>
      cases rest with
      | nil => rfl
      | cons c rest =>
          have none_left : ¬ start * 10 + digitValue c < naturalLimit := not_lt.2 (full c rfl)
          rw [List.nil_append, gather, if_neg none_left]
          rfl
  | cons c taken ih =>
      have room : start * 10 + digitValue c < naturalLimit :=
        (le_decimalFrom (start * 10 + digitValue c) taken).trans_lt fits
      rw [List.cons_append, gather, if_pos room]
      exact ih fits full

theorem exists_taken (small : start < 2 ^ 64) (digits : List Char) :
    ∃ taken rest, Taken start digits taken rest := by
  induction digits generalizing start with
  | nil => exact ⟨[], [], rfl, small, nofun⟩
  | cons c digits ih =>
      by_cases room : start * 10 + (c.toNat - '0'.toNat) < 2 ^ 64
      · obtain ⟨taken, rest, rfl, fits, full⟩ := ih room
        exact ⟨c :: taken, rest, rfl, fits, full⟩
      · refine ⟨[], c :: digits, rfl, small, ?_⟩
        rintro d ⟨⟩
        exact not_lt.1 room

theorem decimalFrom_append (start : Nat) (digits more : List Char) :
    decimalFrom start (digits ++ more) = decimalFrom (decimalFrom start digits) more :=
  List.foldl_append

theorem rest_eq_nil_iff (is_taken : Taken start digits taken rest) :
    rest = [] ↔ decimalFrom start digits < 2 ^ 64 := by
  obtain ⟨rfl, fits, full⟩ := is_taken
  cases rest with
  | nil => simpa using fits
  | cons c rest =>
      have beyond : 2 ^ 64 ≤ decimalFrom start (taken ++ [c]) := full c rfl
      have longer := le_decimalFrom (decimalFrom start (taken ++ [c])) rest
      rw [← decimalFrom_append, List.append_assoc] at longer
      exact iff_of_false (List.cons_ne_nil c rest) (not_lt.2 (beyond.trans longer))

theorem double_iff (before : Taken 0 whole taken rest) {d : Number} :
    (scale negative (gather (decimal taken) fraction).1
        (rest.length - (fraction.length - (gather (decimal taken) fraction).2 : Nat) +
          exponent.getD 0)).map Number.double = some d ↔
      ∃ taken' rest' x y, Taken (decimal taken) fraction taken' rest' ∧
        Nearest (decimalFrom (decimal taken) taken') x ∧
        Moved x (rest.length - taken'.length + exponent.getD 0) y ∧
        Number.double (y.withSign negative) = d := by
  have gathered {taken' rest' : List Char} (behind : Taken (decimal taken) fraction taken' rest') :
      (gather (decimal taken) fraction).1 = decimalFrom (decimal taken) taken' ∧
        fraction.length - (gather (decimal taken) fraction).2 = taken'.length := by
    rw [gather_of_taken behind, behind.digits_eq, List.length_append]
    exact ⟨rfl, by dsimp only; omega⟩
  constructor
  · intro found
    obtain ⟨taken', rest', behind⟩ := exists_taken before.fits fraction
    obtain ⟨significand, places⟩ := gathered behind
    rw [significand, places] at found
    obtain ⟨z, scaled, rfl⟩ := Option.map_eq_some_iff.1 found
    obtain ⟨x, y, digits, moved, rfl⟩ := (scale_eq_some_iff behind.fits).1 scaled
    exact ⟨taken', rest', x, y, behind, digits, moved, rfl⟩
  · rintro ⟨taken', rest', x, y, behind, digits, moved, rfl⟩
    obtain ⟨significand, places⟩ := gathered behind
    rw [significand, places]
    exact Option.map_eq_some_iff.2
      ⟨_, (scale_eq_some_iff behind.fits).2 ⟨x, y, digits, moved, rfl⟩, rfl⟩

theorem standsFor_double_iff {n : Number}
    (no_whole : fraction = [] ∧ exponent = none →
      if negative then decimal whole = 0 ∨ 2 ^ 63 < decimal whole else 2 ^ 64 ≤ decimal whole)
    (before : Taken 0 whole taken rest) :
    StandsFor negative whole fraction exponent n ↔
      ∃ taken' rest' x y, Taken (decimal taken) fraction taken' rest' ∧
        Nearest (decimalFrom (decimal taken) taken') x ∧
        Moved x (rest.length - taken'.length + exponent.getD 0) y ∧
        Number.double (y.withSign negative) = n := by
  constructor
  · intro stands
    cases stands with
    | natural plain unsigned fits =>
        have large := no_whole plain
        rw [unsigned] at large
        exact absurd fits (not_lt.2 large)
    | negative plain signed some fits =>
        have other := no_whole plain
        rw [signed] at other
        rcases other with none | large
        · exact absurd none some.ne'
        · exact absurd large (not_lt.2 fits)
    | @double other more taken' rest' x y _ before' behind digits moved =>
        have same := (gather_of_taken before').symm.trans (gather_of_taken before)
        obtain ⟨decimal_eq, length_eq⟩ := Prod.mk.inj same
        have decimal_eq : decimal other = decimal taken := decimal_eq
        rw [decimal_eq] at behind digits
        rw [length_eq] at moved
        exact ⟨taken', rest', x, y, behind, digits, moved, rfl⟩
  · rintro ⟨taken', rest', x, y, behind, digits, moved, rfl⟩
    exact .double no_whole before behind digits moved

theorem standsFor_natural_iff {n : Number} (fits : decimal whole < 2 ^ 64) :
    StandsFor false whole [] none n ↔ Number.natural (decimal whole) = n := by
  constructor
  · intro stands
    cases stands with
    | natural => rfl
    | negative _ signed => cases signed
    | double no_whole => exact absurd fits (not_lt.2 (no_whole ⟨rfl, rfl⟩))
  · rintro rfl
    exact .natural ⟨rfl, rfl⟩ rfl fits

theorem standsFor_negative_iff {n : Number} (some : 0 < decimal whole)
    (fits : decimal whole ≤ 2 ^ 63) :
    StandsFor true whole [] none n ↔ Number.negative (decimal whole) = n := by
  constructor
  · intro stands
    cases stands with
    | natural _ unsigned => cases unsigned
    | negative => rfl
    | double no_whole =>
        rcases no_whole ⟨rfl, rfl⟩ with none | large
        · exact absurd none some.ne'
        · exact absurd large (not_lt.2 fits)
  · rintro rfl
    exact .negative ⟨rfl, rfl⟩ rfl some fits

theorem ofLiteral_eq_some_iff {n : Number} :
    ofLiteral negative whole fraction exponent = some n ↔
      StandsFor negative whole fraction exponent n := by
  obtain ⟨taken, rest, before⟩ := exists_taken (by decide : 0 < 2 ^ 64) whole
  have gathered : gather 0 whole = (decimal taken, rest.length) := gather_of_taken before
  have short : rest = [] ↔ decimal whole < 2 ^ 64 := rest_eq_nil_iff before
  unfold ofLiteral
  rw [gathered]
  dsimp only
  by_cases plain : fraction = [] ∧ exponent = none
  · obtain ⟨rfl, rfl⟩ := plain
    by_cases all : rest = []
    · have whole_eq : decimal taken = decimal whole := by
        rw [before.digits_eq, all, List.append_nil]
      rw [all, whole_eq]
      cases negative with
      | false => simp [standsFor_natural_iff (short.1 all)]
      | true =>
          by_cases bounds : 0 < decimal whole ∧ decimal whole ≤ negativeLimit
          · simp [bounds, standsFor_negative_iff bounds.1 bounds.2]
          · have no_whole : if true then decimal whole = 0 ∨ 2 ^ 63 < decimal whole
                else 2 ^ 64 ≤ decimal whole := by
              unfold negativeLimit at bounds
              rw [if_pos rfl]
              omega
            rw [standsFor_double_iff (fun _ => no_whole) before, ← double_iff before]
            simp [bounds, all, whole_eq, gather]
    · have large : 2 ^ 64 ≤ decimal whole := not_lt.1 (mt short.2 all)
      have no_whole : if negative then decimal whole = 0 ∨ 2 ^ 63 < decimal whole
          else 2 ^ 64 ≤ decimal whole := by
        split
        · omega
        · exact large
      rw [standsFor_double_iff (fun _ => no_whole) before, ← double_iff before]
      simp [all]
  · rw [standsFor_double_iff (fun is_plain => absurd is_plain plain) before, ← double_iff before]
    have parts : (fraction.isEmpty && exponent.isNone) = false := by
      cases fraction <;> cases exponent <;> simp_all
    simp [parts]

end Number
end Json
end LessonAudit
