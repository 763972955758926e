import Mailroom.Number.Places
import Mathlib.Algebra.Order.Field.Power
import Mathlib.Tactic.FieldSimp
import Mathlib.Tactic.Linarith
import Mathlib.Tactic.NormNum
import Mathlib.Tactic.Positivity
import Mathlib.Tactic.Ring

/-!
# Numbers with a given count of places are near

A quotient is rounded to a nearest whole number, and to the even one of two. So a
number that is laid out with some places after the point is off by half a unit of
its last place at most: a unit is a power of ten, in the scaled layout one that
leaves a single digit before the point.

The place of the first digit is looked for one power of ten after the other. It is
found for every number of the format, since none is as large as `10 ^ 400` or
closer to zero than its inverse.
-/

namespace Mailroom.Binary64

section Rounding

variable {numerator denominator : Nat}

/-- A quotient is rounded by half a unit at most. -/
theorem roundQuotient_bounds (numerator : Nat) (positive : 0 < denominator) :
    2 * numerator ≤ (2 * roundQuotient numerator denominator + 1) * denominator ∧
      2 * roundQuotient numerator denominator * denominator ≤ 2 * numerator + denominator := by
  have parts := Nat.div_add_mod numerator denominator
  have small := Nat.mod_lt numerator positive
  unfold roundQuotient
  dsimp only
  split
  case isTrue up =>
    have half : denominator ≤ 2 * (numerator % denominator) := by
      simp only [Bool.or_eq_true, decide_eq_true_eq, Bool.and_eq_true, beq_iff_eq] at up
      omega
    constructor <;> linarith [Nat.zero_le (numerator % denominator)]
  case isFalse down =>
    have half : 2 * (numerator % denominator) ≤ denominator := by
      simp only [Bool.or_eq_true, decide_eq_true_eq, Bool.and_eq_true, beq_iff_eq] at down
      omega
    constructor <;> linarith [Nat.zero_le (numerator % denominator)]

/-- Rounding goes to a nearest whole number. -/
theorem roundQuotient_near (numerator : Nat) (positive : 0 < denominator) :
    |(roundQuotient numerator denominator : ℚ) - numerator / denominator| ≤ 1 / 2 := by
  obtain ⟨above, below⟩ := roundQuotient_bounds numerator positive
  have positive : (0 : ℚ) < denominator := by exact_mod_cast positive
  generalize roundQuotient numerator denominator = rounded at above below ⊢
  have above : (2 * numerator : ℚ) ≤ (2 * rounded + 1) * denominator := by exact_mod_cast above
  have below : (2 * rounded * denominator : ℚ) ≤ 2 * numerator + denominator := by
    exact_mod_cast below
  have upper : (numerator : ℚ) / denominator ≤ rounded + 1 / 2 := by
    rw [div_le_iff₀ positive]
    linarith
  have lower : (rounded : ℚ) - 1 / 2 ≤ numerator / denominator := by
    rw [le_div_iff₀ positive]
    linarith
  rw [abs_le]
  constructor <;> linarith

/-- Of two nearest whole numbers the even one is taken. -/
theorem roundQuotient_even {whole : Nat} (positive : 0 < denominator)
    (tie : 2 * numerator = (2 * whole + 1) * denominator) :
    roundQuotient numerator denominator % 2 = 0 := by
  have isWhole : numerator / denominator = whole :=
    Nat.div_eq_of_lt_le (by linarith) (by linarith)
  have isHalf : 2 * (numerator % denominator) = denominator := by
    have parts := Nat.div_add_mod numerator denominator
    rw [isWhole] at parts
    linarith
  unfold roundQuotient
  dsimp only
  rw [isWhole, isHalf]
  rcases Nat.mod_two_eq_zero_or_one whole with even | odd
  · rw [if_neg (by simp [even]), even]
  · rw [if_pos (by simp [odd])]
    omega

end Rounding

section Scaling

/-- Powers of a base over a positive denominator. -/
theorem scaled_value (base : Nat) (positive : 0 < base) (value : Nat) (exponent : Int) :
    0 < (scaled base value exponent).2 ∧
      ((scaled base value exponent).1 : ℚ) / (scaled base value exponent).2 =
        value * (base : ℚ) ^ exponent := by
  have nonzero : (base : ℚ) ≠ 0 := by exact_mod_cast positive.ne'
  cases exponent with
  | ofNat power =>
    refine ⟨Nat.one_pos, ?_⟩
    simp [scaled]
  | negSucc power =>
    refine ⟨Nat.pow_pos positive, ?_⟩
    simp [scaled, zpow_negSucc, div_eq_mul_inv]

variable {numerator denominator : Nat}

/-- Going up finds the place of the first digit before the point. -/
theorem decimalPlace_up (numerator denominator fuel start : Nat)
    (reached : denominator * 10 ^ start ≤ 10 * numerator)
    (bounded : numerator < denominator * 10 ^ (start + fuel)) :
    ∃ place : Nat, decimalPlace.up numerator denominator fuel (10 ^ start) start = place ∧
      denominator * 10 ^ place ≤ 10 * numerator ∧ numerator < denominator * 10 ^ place := by
  induction fuel generalizing start with
  | zero => exact ⟨start, rfl, reached, bounded⟩
  | succ fuel inductionHypothesis =>
    unfold decimalPlace.up
    split
    case isTrue found => exact ⟨start, rfl, reached, found⟩
    case isFalse further =>
      rw [← Nat.pow_succ]
      exact inductionHypothesis (start + 1) (by rw [Nat.pow_succ]; linarith)
        (by rwa [Nat.add_right_comm])

/-- Going down finds the place of the first digit after the point. -/
theorem decimalPlace_down (numerator denominator fuel start : Nat)
    (passed : numerator * 10 ^ start < denominator)
    (bounded : denominator ≤ numerator * 10 ^ (start + fuel)) :
    ∃ place : Nat,
      decimalPlace.down numerator denominator fuel (10 ^ (start + 1)) (-start) = -place ∧
      numerator * 10 ^ place < denominator ∧ denominator ≤ numerator * 10 ^ (place + 1) := by
  induction fuel generalizing start with
  | zero => exact absurd bounded (Nat.not_le.mpr passed)
  | succ fuel inductionHypothesis =>
    unfold decimalPlace.down
    split
    case isTrue found => exact ⟨start, rfl, passed, found⟩
    case isFalse further =>
      have next := inductionHypothesis (start + 1) (Nat.not_le.mp further)
        (by rwa [Nat.add_right_comm])
      rwa [Nat.cast_add, Nat.cast_one, neg_add, ← sub_eq_add_neg, Nat.pow_succ] at next

/-- The place of the first digit is where powers of ten pass the quotient. -/
theorem decimalPlace_spec (positive : 0 < denominator)
    (large : denominator ≤ numerator * 10 ^ 400) (small : numerator < denominator * 10 ^ 400) :
    (10 : ℚ) ^ (decimalPlace numerator denominator - 1) ≤ numerator / denominator ∧
      (numerator : ℚ) / denominator < 10 ^ decimalPlace numerator denominator := by
  have positive : (0 : ℚ) < denominator := by exact_mod_cast positive
  unfold decimalPlace
  split
  case isTrue isLarge =>
    obtain ⟨place, found, reached, passed⟩ :=
      decimalPlace_up numerator denominator 400 0
        (by simpa using isLarge.trans (Nat.le_mul_of_pos_left numerator (by decide)))
        (by rwa [Nat.zero_add])
    rw [show decimalPlace.up numerator denominator 400 1 0 = place from found,
      zpow_sub_one₀ (by norm_num), zpow_natCast, le_div_iff₀ positive, div_lt_iff₀ positive]
    have reached : (denominator * 10 ^ place : ℚ) ≤ 10 * numerator := by exact_mod_cast reached
    have passed : (numerator : ℚ) < denominator * 10 ^ place := by exact_mod_cast passed
    constructor <;> linarith
  case isFalse isSmall =>
    obtain ⟨place, found, passed, reached⟩ :=
      decimalPlace_down numerator denominator 400 0
        (by simpa using isSmall) (by rwa [Nat.zero_add])
    have passed : (numerator * 10 ^ place : ℚ) < denominator := by exact_mod_cast passed
    have reached : (denominator : ℚ) ≤ numerator * 10 ^ (place + 1) := by exact_mod_cast reached
    have power : (0 : ℚ) < 10 ^ place := by positivity
    rw [show decimalPlace.down numerator denominator 400 10 0 = -place from found,
      zpow_sub_one₀ (by norm_num), zpow_neg, zpow_natCast, le_div_iff₀ positive,
      div_lt_iff₀ positive]
    constructor
    · rw [← mul_inv, inv_mul_le_iff₀ (by positivity)]
      rw [pow_succ] at reached
      linarith
    · rwa [lt_inv_mul_iff₀ power, mul_comm]

/-- Counting in units, half a unit is off at most. -/
theorem counted_near {rounded : Nat} {exact unit : ℚ} (positive : 0 < unit)
    (near : |(rounded : ℚ) - exact / unit| ≤ 1 / 2) : |rounded * unit - exact| ≤ unit / 2 := by
  have scale : (rounded : ℚ) * unit - exact = (rounded - exact / unit) * unit := by
    field_simp
  rw [scale, abs_mul, abs_of_pos positive]
  linarith [mul_le_mul_of_nonneg_right near positive.le]

/-- Rounding to a unit of which there are between `10 ^ places` and `10 ^ (places + 1)` stays
between these bounds and is off by half a unit at most. -/
theorem rounded_units (places : Nat) {rounded : Nat} {exact unit : ℚ} (positive : 0 < unit)
    (near : |(rounded : ℚ) - exact / unit| ≤ 1 / 2) (reached : 10 ^ places * unit ≤ exact)
    (passed : exact < 10 ^ (places + 1) * unit) :
    10 ^ places ≤ rounded ∧ rounded ≤ 10 ^ (places + 1) ∧
      |rounded * unit - exact| ≤ unit / 2 := by
  obtain ⟨above, below⟩ := abs_le.mp near
  have reached : 10 ^ places ≤ exact / unit := (le_div_iff₀ positive).mpr reached
  have passed : exact / unit < 10 ^ (places + 1) := (div_lt_iff₀ positive).mpr passed
  refine ⟨?_, ?_, counted_near positive near⟩
  · have : ((10 ^ places : Nat) : ℚ) < (rounded + 1 : Nat) := by
      push_cast
      linarith
    exact Nat.lt_succ_iff.mp (by exact_mod_cast this)
  · have : (rounded : ℚ) < ((10 ^ (places + 1) + 1 : Nat) : ℚ) := by
      push_cast
      linarith
    exact Nat.lt_succ_iff.mp (by exact_mod_cast this)

/-- A quotient that is scaled before it is rounded is rounded to a nearest number of units. -/
theorem roundQuotient_scaled_near (numerator : Nat) (positive : 0 < denominator) (power : Int) :
    |(roundQuotient (numerator * (scaled 10 1 power).1) (denominator * (scaled 10 1 power).2) : ℚ) -
      numerator / denominator / 10 ^ (-power)| ≤ 1 / 2 := by
  obtain ⟨above, ratio⟩ := scaled_value 10 (by decide) 1 power
  have scale : ((numerator * (scaled 10 1 power).1 : Nat) : ℚ) /
      (denominator * (scaled 10 1 power).2 : Nat) = numerator / denominator / 10 ^ (-power) := by
    rw [Nat.cast_mul, Nat.cast_mul, mul_div_mul_comm, ratio, Nat.cast_one, one_mul, zpow_neg,
      div_inv_eq_mul, Nat.cast_ofNat]
  rw [← scale]
  exact roundQuotient_near _ (Nat.mul_pos positive above)

/-- One digit more with one unit less is the same number. -/
theorem carried_units (places : Nat) (place : Int) :
    ((10 ^ places : Nat) : ℚ) * 10 ^ (place - places) =
      (10 ^ (places + 1) : Nat) * 10 ^ (place - (places + 1 : Nat)) := by
  have tenfold : (10 : ℚ) ^ (place - places) = 10 * 10 ^ (place - (places + 1 : Nat)) := by
    rw [← zpow_one_add₀ (by norm_num)]
    congr 1
    omega
  rw [tenfold]
  push_cast
  ring

/-- The leading digits of a quotient are as many as asked for, and stand for a number that is
off by half a unit of the last of them at most. -/
theorem leadingDigits_near (places : Nat) (positive : 0 < denominator)
    (large : denominator ≤ numerator * 10 ^ 400) (small : numerator < denominator * 10 ^ 400) :
    let (digits, exponent) := leadingDigits (places + 1) numerator denominator
    10 ^ places ≤ digits ∧ digits < 10 ^ (places + 1) ∧
      |(digits : ℚ) * 10 ^ (exponent - places) - numerator / denominator| ≤
        10 ^ (exponent - places) / 2 := by
  obtain ⟨reached, passed⟩ := decimalPlace_spec positive large small
  have nonzero : numerator ≠ 0 := by
    rintro rfl
    omega
  unfold leadingDigits
  rw [if_neg nonzero]
  dsimp only [Nat.pow_eq]
  generalize decimalPlace numerator denominator = place at reached passed ⊢
  have near := roundQuotient_scaled_near numerator positive ((places + 1 : Nat) - place)
  rw [neg_sub] at near
  generalize roundQuotient _ _ = rounded at near ⊢
  -- One unit of the last digit, as long as rounding does not give one digit more.
  have unit : (0 : ℚ) < 10 ^ (place - (places + 1 : Nat)) := by positivity
  obtain ⟨least, most, off⟩ := rounded_units places unit near
    (by rwa [← zpow_natCast, ← zpow_add₀ (by norm_num),
      show (places : Int) + _ = place - 1 by omega])
    (by rwa [← zpow_natCast, ← zpow_add₀ (by norm_num), show (_ : Int) + _ = place by omega])
  split
  case isTrue carried =>
    refine ⟨le_rfl, Nat.pow_lt_pow_succ (by decide), ?_⟩
    dsimp only
    rw [Nat.add_sub_cancel, carried_units, ← carried]
    refine off.trans (div_le_div_of_nonneg_right ?_ (by decide))
    exact zpow_le_zpow_right₀ (by decide) (by omega)
  case isFalse kept =>
    refine ⟨least, lt_of_le_of_ne most kept, ?_⟩
    dsimp only
    rwa [show place - 1 - places = place - (places + 1 : Nat) by omega]

end Scaling

section Layouts

/-- Digits before and after a point, which stand for so many units of the last place. -/
structure Numeral (whole fraction : List Char) (places units : Nat) : Prop where
  some : whole ≠ []
  places : fraction.length = places
  figures : ∀ each ∈ whole ++ fraction, each.isDigit = true
  value : Nat.ofDigitChars 10 (whole ++ fraction) 0 = units

/-- Digits around a point, which is left out before no digits unless it is kept. -/
def pointed (keepPoint : Bool) (whole fraction : List Char) : List Char :=
  if fraction.isEmpty && !keepPoint then whole else whole ++ '.' :: fraction

/-- Padded digits are figures, are at least as many as asked for and stand for the number. -/
theorem paddedDigits_figures (count value : Nat) :
    count ≤ (paddedDigits count value).length ∧
      (∀ each ∈ paddedDigits count value, each.isDigit = true) ∧
      Nat.ofDigitChars 10 (paddedDigits count value) 0 = value := by
  unfold paddedDigits
  dsimp only
  refine ⟨?_, fun each member => ?_, ?_⟩
  · rw [List.length_append, List.length_replicate]
    omega
  · rcases List.mem_append.mp member with zero | digit
    · rw [List.eq_of_mem_replicate zero]
      rfl
    · exact Nat.isDigit_of_mem_toDigits (by decide) (by decide) digit
  · rw [Nat.ofDigitChars_append, Nat.ofDigitChars_replicate_zero, Nat.mul_zero,
      Nat.ofDigitChars_ten_toDigits]

/-- A point before the last places of padded digits makes a numeral of them; there is one
digit before the point if the number has no more. -/
theorem withPoint_paddedDigits (keepPoint : Bool) (places units : Nat) :
    ∃ whole fraction,
      withPoint keepPoint places (paddedDigits (places + 1) units) =
        pointed keepPoint whole fraction ∧
      Numeral whole fraction places units ∧ (units < 10 ^ (places + 1) → whole.length = 1) := by
  obtain ⟨enough, figures, value⟩ := paddedDigits_figures (places + 1) units
  refine ⟨_, _, rfl, ⟨?_, ?_, ?_, ?_⟩, fun small => ?_⟩
  · rw [ne_eq, ← List.length_eq_zero_iff, List.length_take]
    omega
  · rw [List.length_drop]
    omega
  · rwa [List.take_append_drop]
  · rwa [List.take_append_drop]
  · have exactly : (paddedDigits (places + 1) units).length = places + 1 := by
      have few := (Nat.length_toDigits_le_iff (by decide) (Nat.succ_pos places)).mpr small
      rw [paddedDigits, List.length_append, List.length_replicate]
      omega
    rw [List.length_take, exactly]
    omega

/-- In the fixed layout a number is shown with the stated places after the point, and off by
half a unit of the last place at most. -/
theorem placed_fixed (negative : Bool) (mantissa : Nat) (exponent : Int) (keepPoint : Bool)
    (places : Nat) :
    ∃ whole fraction units,
      (finite negative mantissa exponent).placed .fixed keepPoint places =
        (negative, pointed keepPoint whole fraction) ∧
      Numeral whole fraction places units ∧
      |(units : ℚ) / 10 ^ places - mantissa * 2 ^ exponent| ≤ 1 / 10 ^ places / 2 := by
  obtain ⟨positive, ratio⟩ := scaled_value 2 (by decide) mantissa exponent
  obtain ⟨whole, fraction, text, numeral, -⟩ := withPoint_paddedDigits keepPoint places
    (roundQuotient ((scaled 2 mantissa exponent).1 * 10 ^ places) (scaled 2 mantissa exponent).2)
  refine ⟨whole, fraction, _, congrArg (Prod.mk negative) text, numeral, ?_⟩
  have near := roundQuotient_near ((scaled 2 mantissa exponent).1 * 10 ^ places) positive
  have exact : (((scaled 2 mantissa exponent).1 * 10 ^ places : Nat) : ℚ) /
      (scaled 2 mantissa exponent).2 = mantissa * 2 ^ exponent / (1 / 10 ^ places) := by
    rw [Nat.cast_mul, mul_div_right_comm, ratio, div_div_eq_mul_div, div_one]
    push_cast
    rfl
  rw [exact] at near
  rw [← mul_one_div]
  exact counted_near (by positivity) near

/-- The numbers of the format are neither as large as `10 ^ 400` nor as close to zero as its
inverse, unless they are zero. -/
theorem scaled_in_range {mantissa : Nat} {exponent : Int} (nonzero : mantissa ≠ 0)
    (precise : mantissa < 2 ^ 53) (least : -1074 ≤ exponent) (most : exponent ≤ 971) :
    (scaled 2 mantissa exponent).2 ≤ (scaled 2 mantissa exponent).1 * 10 ^ 400 ∧
      (scaled 2 mantissa exponent).1 < (scaled 2 mantissa exponent).2 * 10 ^ 400 := by
  obtain ⟨positive, ratio⟩ := scaled_value 2 (by decide) mantissa exponent
  have positive : (0 : ℚ) < (scaled 2 mantissa exponent).2 := by exact_mod_cast positive
  have huge : (2 : ℚ) ^ (1200 : ℤ) ≤ 10 ^ (400 : ℤ) := by
    rw [show (1200 : ℤ) = 3 * 400 by rfl, zpow_mul]
    exact zpow_le_zpow_left₀ (by decide) (by norm_num) (by norm_num)
  have some : (1 : ℚ) ≤ mantissa := by exact_mod_cast Nat.one_le_iff_ne_zero.mpr nonzero
  have precise : (mantissa : ℚ) < 2 ^ (53 : ℤ) := by exact_mod_cast precise
  constructor
  · suffices (1 : ℚ) ≤ mantissa * 2 ^ exponent * 10 ^ (400 : ℤ) by
      rw [← Nat.cast_two, ← ratio, div_mul_eq_mul_div, le_div_iff₀ positive, one_mul] at this
      exact_mod_cast this
    calc (1 : ℚ) ≤ 2 ^ (exponent + 1200) := one_le_zpow₀ (by norm_num) (by omega)
      _ = 1 * 2 ^ exponent * 2 ^ (1200 : ℤ) := by rw [zpow_add₀ (by norm_num), one_mul]
      _ ≤ mantissa * 2 ^ exponent * 10 ^ (400 : ℤ) := by gcongr
  · suffices (mantissa : ℚ) * 2 ^ exponent < 10 ^ (400 : ℤ) by
      rw [← Nat.cast_two, ← ratio, div_lt_iff₀ positive, mul_comm] at this
      exact_mod_cast this
    calc (mantissa : ℚ) * 2 ^ exponent < 2 ^ (53 : ℤ) * 2 ^ exponent := by gcongr
      _ = 2 ^ (53 + exponent) := (zpow_add₀ (by norm_num) _ _).symm
      _ ≤ 2 ^ (1200 : ℤ) := zpow_le_zpow_right₀ (by norm_num) (by omega)
      _ ≤ 10 ^ (400 : ℤ) := huge

/-- The leading digits of a number of the format are as many as asked for, unless it is zero,
and are off by half a unit of the last of them at most. -/
theorem leadingDigits_number {mantissa digits : Nat} {exponent power : Int} (places : Nat)
    (precise : mantissa < 2 ^ 53) (least : -1074 ≤ exponent) (most : exponent ≤ 971)
    (leading : leadingDigits (places + 1) (scaled 2 mantissa exponent).1
      (scaled 2 mantissa exponent).2 = (digits, power)) :
    (mantissa ≠ 0 → 10 ^ places ≤ digits) ∧ digits < 10 ^ (places + 1) ∧
      |(digits : ℚ) * 10 ^ (power - places) - mantissa * 2 ^ exponent| ≤
        10 ^ (power - places) / 2 := by
  obtain ⟨positive, ratio⟩ := scaled_value 2 (by decide) mantissa exponent
  by_cases zero : mantissa = 0
  · have none : (scaled 2 mantissa exponent).1 = 0 := by
      rw [zero]
      cases exponent <;> simp [scaled]
    rw [leadingDigits, if_pos none] at leading
    cases leading
    refine ⟨fun nonzero => absurd zero nonzero, by positivity, ?_⟩
    simp only [zero, Nat.cast_zero, zero_mul, sub_self, abs_zero]
    positivity
  · obtain ⟨large, small⟩ := scaled_in_range zero precise least most
    have near := leadingDigits_near places positive large small
    rw [leading, ratio] at near
    exact ⟨fun _ => near.1, near.2⟩

/-- In the scaled layout a number of the format is shown with one digit before the point,
which is zero only for zero, with the stated places after it and a power of ten. It is off by
half a unit of the last place at most. -/
theorem placed_scaled (negative : Bool) {mantissa : Nat} {exponent : Int} (keepPoint : Bool)
    (places : Nat) (precise : mantissa < 2 ^ 53) (least : -1074 ≤ exponent)
    (most : exponent ≤ 971) :
    ∃ digit fraction units power,
      (finite negative mantissa exponent).placed .scaled keepPoint places =
        (negative, pointed keepPoint [digit] fraction ++ 'e' :: exponentText power) ∧
      Numeral [digit] fraction places units ∧ (mantissa ≠ 0 → 10 ^ places ≤ units) ∧
      |(units : ℚ) * 10 ^ (power - places) - mantissa * 2 ^ exponent| ≤
        10 ^ (power - places) / 2 := by
  cases leading : leadingDigits (places + 1) (scaled 2 mantissa exponent).1
    (scaled 2 mantissa exponent).2 with
  | mk units power =>
    obtain ⟨atLeast, short, off⟩ := leadingDigits_number places precise least most leading
    obtain ⟨whole, fraction, text, numeral, single⟩ :=
      withPoint_paddedDigits keepPoint places units
    obtain ⟨digit, rfl⟩ := List.length_eq_one_iff.mp (single short)
    refine ⟨digit, fraction, units, power, ?_, numeral, atLeast, off⟩
    change (negative, scaledText keepPoint places (scaled 2 mantissa exponent).1
      (scaled 2 mantissa exponent).2) = _
    rw [scaledText, leading, ← text]

end Layouts

end Mailroom.Binary64
