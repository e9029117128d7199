import Mathlib.Data.Rat.Floor
import Palette.Proofs.Binary.Numeral

/-!
# Integers as numbers

A number of limited precision holds every integer with no more bits than it has, so rounding
leaves such an integer alone (`nearest_intCast`).  A larger one may be moved or become an
infinity, but it keeps its sign, and at least half of its size (`abs_nearest_sub_le_half`).

This is all that a clamp to a short range has to know.  An integer in decimal that is read as a
number of 64 bits, clamped between zero and a limit, and rounded, is the integer clamped
between the two (`round_clamp_toBinary`), however many digits it has.

A remainder has to know more, namely the integer itself, so it is that of the integer only up to
two to the power of 53 (`modulo_toBinary`).  It takes the sign of the divisor behind one more
addition, which for a whole turn of 360 degrees rounds nothing, and a zero loses its minus sign.
-/

namespace Palette

/-! ## Exact values -/

theorem roundHalfEven_intCast (integer : ℤ) : roundHalfEven (integer : ℚ) = integer := by
  have hfloor : (integer : ℚ).floor = integer := Rat.floor_intCast integer
  have hpart : (integer : ℚ) - (integer : ℚ).floor < 1 / 2 := by
    rw [hfloor, sub_self]
    norm_num
  unfold roundHalfEven
  rw [if_pos hpart, hfloor]

namespace Precision

variable (precision : Precision)

/-- A value that is a count of its own steps stays what it is. -/
theorem nearest_of_steps {value : ℚ} {count : ℤ} (hvalue : value = count * precision.spacing value) :
    precision.nearest value = value := by
  by_cases hzero : value = 0
  · rw [nearest, if_pos hzero, hzero]
  · have hspacing := (precision.spacing_pos value).ne'
    have hcount : value / precision.spacing value = count := by
      rw [div_eq_iff hspacing]
      exact hvalue
    rw [precision.nearest_of_ne_zero hzero, hcount, roundHalfEven_intCast, ← hvalue]

/-- An integer with no more bits than the precision has stays what it is. -/
theorem nearest_intCast (hleast : precision.leastExponent ≤ 0) {integer : ℤ}
    (hbits : |integer| < 2 ^ precision.bits) : precision.nearest integer = integer := by
  by_cases hzero : integer = 0
  · rw [hzero, Int.cast_zero, nearest, if_pos rfl]
  have habs : (0 : ℚ) < |(integer : ℚ)| := abs_pos.2 (Int.cast_ne_zero.2 hzero)
  -- the steps around the integer are a fraction of one, whose denominator is a power of two
  have hlog : floorLog2 |(integer : ℚ)| < precision.bits := by
    have hupper : |(integer : ℚ)| < 2 ^ (precision.bits : ℤ) := by
      rw [zpow_natCast, ← Int.cast_abs]
      exact_mod_cast hbits
    exact (zpow_lt_zpow_iff_right₀ one_lt_two).1 ((floorLog2_bounds habs).1.trans_lt hupper)
  obtain ⟨places, hplaces⟩ : ∃ places : ℕ,
      max (floorLog2 |(integer : ℚ)| - precision.bits + 1) precision.leastExponent = -places :=
    ⟨(-max (floorLog2 |(integer : ℚ)| - precision.bits + 1) precision.leastExponent).toNat,
      by omega⟩
  have hsteps : (integer : ℚ) =
      (integer * 2 ^ places : ℤ) * precision.spacing (integer : ℚ) := by
    rw [precision.spacing_eq, hplaces, zpow_neg, zpow_natCast, Int.cast_mul, Int.cast_pow,
      Int.cast_ofNat, mul_assoc, mul_inv_cancel₀ (pow_ne_zero _ two_ne_zero), mul_one]
  exact precision.nearest_of_steps hsteps

/-- So does the power of two that has one bit more. -/
theorem nearest_intCast_of_le (hleast : precision.leastExponent ≤ 0) (hbits : precision.bits ≠ 0)
    {integer : ℤ} (hsize : |integer| ≤ 2 ^ precision.bits) :
    precision.nearest integer = integer := by
  rcases hsize.lt_or_eq with hlt | heq
  · exact precision.nearest_intCast hleast hlt
  have habs : |(integer : ℚ)| = 2 ^ (precision.bits : ℤ) := by
    rw [zpow_natCast, ← Int.cast_abs, heq]
    norm_num
  have hlog : floorLog2 |(integer : ℚ)| = precision.bits := by
    have hpositive : 0 < |(integer : ℚ)| := by
      rw [habs]
      positivity
    have hbounds := floorLog2_bounds hpositive
    rw [habs] at hbounds ⊢
    have hlow := (zpow_le_zpow_iff_right₀ (one_lt_two (α := ℚ))).1 hbounds.1
    have hhigh := (zpow_lt_zpow_iff_right₀ (one_lt_two (α := ℚ))).1 hbounds.2
    omega
  -- the steps from it on are two, and it is even
  have hspacing : precision.spacing (integer : ℚ) = 2 := by
    rw [precision.spacing_eq, hlog, max_eq_left (by omega)]
    norm_num
  obtain ⟨half, rfl⟩ : (2 : ℤ) ∣ integer := by
    rw [← dvd_abs, heq]
    exact dvd_pow_self 2 hbits
  have hsteps : ((2 * half : ℤ) : ℚ) = half * precision.spacing (2 * half : ℤ) := by
    rw [hspacing]
    push_cast
    ring
  exact precision.nearest_of_steps hsteps

end Precision

namespace Binary

/-! ## Large values -/

theorem not_isTiny_of_one_le {value : ℚ} (hvalue : 1 ≤ |value|) : ¬ IsTiny value := by
  have hhalf : (1 : ℚ) / 2 ^ 1075 < 1 := by
    rw [div_lt_one (by positivity)]
    exact one_lt_pow₀ one_lt_two (by norm_num)
  exact fun htiny => absurd (hvalue.trans htiny) (not_le.2 hhalf)

/-- One rounding takes at most half of a value away that is not below one. -/
theorem abs_nearest_sub_le_half {value : ℚ} (hvalue : 1 ≤ |value|) :
    |Precision.double.nearest value - value| ≤ |value| / 2 := by
  have hzero : value ≠ 0 := by
    rintro rfl
    rw [abs_zero] at hvalue
    exact absurd hvalue (by norm_num)
  have herror := Precision.double.abs_nearest_sub_le_spacing value
  have hspacing := Precision.double.spacing_le value hzero
  have hbits : (2 : ℚ) ^ (1 - (Precision.double.bits : ℤ)) ≤ 1 / 2 := by
    show (2 : ℚ) ^ (-(52 : ℕ) : ℤ) ≤ 1 / 2
    rw [zpow_neg, zpow_natCast]
    norm_num
  have hleast : (2 : ℚ) ^ Precision.double.leastExponent ≤ 1 / 2 := by
    show (2 : ℚ) ^ (-(1074 : ℕ) : ℤ) ≤ 1 / 2
    rw [zpow_neg, zpow_natCast, one_div]
    gcongr
    exact le_self_pow₀ one_le_two (by norm_num)
  have hscaled := mul_le_mul_of_nonneg_left hbits (abs_nonneg value)
  linarith

/-! ## Integers that are not rounded -/

theorem not_isTiny_intCast {integer : ℤ} (hne : integer ≠ 0) : ¬ IsTiny (integer : ℚ) := by
  apply not_isTiny_of_one_le
  rw [← Int.cast_abs]
  exact_mod_cast Int.one_le_abs hne

theorem not_isHuge_intCast {integer : ℤ} (hsize : |integer| ≤ 2 ^ 53) :
    ¬ IsHuge (integer : ℚ) := by
  have hbound : |(integer : ℚ)| ≤ 2 ^ 53 := by exact_mod_cast hsize
  have hsum : (2 : ℚ) ^ 1024 = 2 ^ 970 * 2 ^ 54 := by rw [← pow_add]
  have hstep : (1 : ℚ) ≤ 2 ^ 970 := one_le_pow₀ one_le_two
  rw [IsHuge, not_le, hsum]
  generalize (2 : ℚ) ^ 970 = step at hstep
  refine hbound.trans_lt ?_
  norm_num
  linarith

theorem ofRat_intCast {integer : ℤ} (hne : integer ≠ 0) (hsize : |integer| ≤ 2 ^ 53)
    (negative : Bool) : ofRat .double negative integer = .finite integer := by
  rw [ofRat_of_moderate (not_isTiny_intCast hne) (not_isHuge_intCast hsize),
    Precision.double.nearest_intCast_of_le (by decide) (by decide) hsize]

/-! ## Clamped integers -/

theorem lt_finite_iff (left right : ℚ) :
    lt (.finite left) (.finite right) = true ↔ left < right :=
  decide_eq_true_iff

theorem round_intCast (integer : ℤ) : round (.finite integer) = integer :=
  roundHalfEven_intCast integer

theorem round_natCast (count : ℕ) : round (.finite count) = count := by
  have hround := round_intCast count
  rwa [Int.cast_natCast] at hround

theorem round_zero (negative : Bool) : round (zero negative) = 0 := by
  have hround := round_intCast 0
  rw [Int.cast_zero] at hround
  cases negative with
  | false => exact hround
  | true => exact hround

theorem clamp_zero (negative : Bool) (limit : ℕ) :
    clamp (.finite 0) (.finite limit) (zero negative) = zero negative := by
  have hlow : lt (zero negative) (.finite 0) = false := by
    cases negative with
    | false => decide
    | true => decide
  have hhigh : lt (.finite limit) (zero negative) = false := by
    have hlimit : decide ((limit : ℚ) < 0) = false := decide_eq_false (not_lt.2 limit.cast_nonneg)
    cases negative with
    | false => exact hlimit
    | true => exact hlimit
  rw [clamp, hlow, hhigh]
  rfl

/-- An exact integer is clamped and rounded to the nearer end or to itself. -/
theorem round_clamp_intCast (integer : ℤ) (limit : ℕ) :
    round (clamp (.finite 0) (.finite limit) (.finite integer)) = max 0 (min integer limit) := by
  unfold clamp
  by_cases hlow : integer < 0
  · rw [if_pos ((lt_finite_iff _ _).2 (by exact_mod_cast hlow))]
    have hzero : round (.finite 0) = 0 := round_zero false
    omega
  · rw [if_neg (mt (lt_finite_iff _ _).1 (by exact_mod_cast hlow))]
    by_cases hhigh : (limit : ℤ) < integer
    · rw [if_pos ((lt_finite_iff _ _).2 (by exact_mod_cast hhigh)), round_natCast]
      omega
    · rw [if_neg (mt (lt_finite_iff _ _).1 (by exact_mod_cast hhigh)), round_intCast]
      omega

end Binary

namespace Decimal

open Binary

/-- The value of a numeral without a point and an exponent. -/
def integer (decimal : Decimal) : ℤ :=
  if decimal.negative then -decimal.digits else decimal.digits

theorem toRat_of_exponent_zero {decimal : Decimal} (hexponent : decimal.exponent = 0) :
    decimal.toRat = decimal.integer := by
  unfold toRat integer
  rw [hexponent, zpow_zero, mul_one]
  split
  · push_cast
    rfl
  · push_cast
    rfl

theorem integer_eq_zero_iff {decimal : Decimal} : decimal.integer = 0 ↔ decimal.digits = 0 := by
  unfold integer
  split <;> simp

/-- An integer of this size is a number, and only a zero keeps more than its value. -/
theorem toBinary_of_exponent_zero {decimal : Decimal} (hexponent : decimal.exponent = 0)
    (hsize : |decimal.integer| ≤ 2 ^ 53) :
    decimal.toBinary .double =
      if decimal.integer = 0 then zero decimal.negative else .finite decimal.integer := by
  by_cases hzero : decimal.integer = 0
  · rw [if_pos hzero]
    exact if_pos (integer_eq_zero_iff.1 hzero)
  · rw [if_neg hzero, toBinary_eq_ofRat, toRat_of_exponent_zero hexponent,
      ofRat_intCast hzero hsize]

/-- A numeral with more bits than a number has lies beyond both ends as a number. -/
theorem clamp_toBinary_of_large {decimal : Decimal} (hlarge : 2 ^ 53 ≤ |decimal.toRat|) {limit : ℕ}
    (hlimit : limit < 2 ^ 52) :
    clamp (.finite 0) (.finite limit) (decimal.toBinary .double) =
      if decimal.negative then .finite 0 else .finite limit := by
  have hone : (1 : ℚ) ≤ |decimal.toRat| := le_trans (by norm_num) hlarge
  have hdigits : decimal.digits ≠ 0 := by
    intro hzero
    rw [decimal.toRat_eq_zero_iff.2 hzero, abs_zero] at hone
    exact absurd hone (by norm_num)
  have hsign := decide_toRat_neg hdigits
  by_cases hhuge : IsHuge decimal.toRat
  · rw [toBinary_of_isHuge hhuge]
    cases decimal.negative with
    | false => rfl
    | true => rfl
  · rw [toBinary_of_moderate (not_isTiny_of_one_le hone) hhuge]
    have herror := abs_le.1 (abs_nearest_sub_le_half hone)
    unfold clamp
    cases hnegative : decimal.negative with
    | true =>
        rw [hnegative, decide_eq_true_eq] at hsign
        rw [abs_of_neg hsign] at hlarge herror
        rw [if_pos ((lt_finite_iff _ _).2 (by linarith))]
        rfl
    | false =>
        rw [hnegative, decide_eq_false_iff_not, not_lt] at hsign
        rw [abs_of_nonneg hsign] at hlarge herror
        have hbound : (limit : ℚ) < 2 ^ 52 := by exact_mod_cast hlimit
        rw [if_neg (mt (lt_finite_iff _ _).1 (by linarith)),
          if_pos ((lt_finite_iff _ _).2 (by linarith))]
        rfl

/-- An integer of any size is read, clamped and rounded to the nearer end or to itself. -/
theorem round_clamp_toBinary {decimal : Decimal} (hexponent : decimal.exponent = 0) {limit : ℕ}
    (hlimit : limit < 2 ^ 52) :
    Binary.round (clamp (.finite 0) (.finite limit) (decimal.toBinary .double)) =
      max 0 (min decimal.integer limit) := by
  have hvalue := toRat_of_exponent_zero hexponent
  -- below this bound the number is the integer itself, and from it on the clamp decides
  by_cases hlarge : 2 ^ 53 ≤ |decimal.toRat|
  · have hsize : 2 ^ 53 ≤ |decimal.integer| := by
      rw [hvalue, ← Int.cast_abs] at hlarge
      exact_mod_cast hlarge
    rw [clamp_toBinary_of_large hlarge hlimit]
    unfold integer at hsize ⊢
    cases hnegative : decimal.negative with
    | true =>
        have hzero : Binary.round (.finite 0) = 0 := round_zero false
        rw [hnegative, if_pos rfl, abs_neg] at hsize
        rw [if_pos rfl, if_pos rfl, hzero]
        omega
    | false =>
        rw [hnegative, if_neg Bool.false_ne_true, Nat.abs_cast] at hsize
        rw [if_neg Bool.false_ne_true, if_neg Bool.false_ne_true, round_natCast]
        omega
  · have hsize : |decimal.integer| ≤ 2 ^ 53 := by
      rw [hvalue, ← Int.cast_abs, not_le] at hlarge
      exact_mod_cast hlarge.le
    rw [toBinary_of_exponent_zero hexponent hsize]
    split
    · rename_i hzero
      rw [hzero, clamp_zero, round_zero]
      omega
    · exact round_clamp_intCast _ _

end Decimal

/-! ## Remainders -/

namespace Binary

/-- The integer part of a quotient of integers is their quotient toward zero. -/
theorem truncate_intCast_div (integer : ℤ) {divisor : ℕ} (hdivisor : 0 < divisor) :
    truncate ((integer : ℚ) / divisor) = integer.tdiv divisor := by
  have hfloor (integer : ℤ) : ((integer : ℚ) / divisor).floor = integer / divisor :=
    Rat.floor_intCast_div_natCast integer divisor
  have hsign : (integer : ℚ) / divisor < 0 ↔ integer < 0 := by
    rw [div_lt_iff₀ (by exact_mod_cast hdivisor), zero_mul, Int.cast_lt_zero]
  unfold truncate
  split
  · rename_i hnegative
    have hinteger : 0 ≤ -integer := Int.neg_nonneg.2 (hsign.1 hnegative).le
    rw [Rat.ceil_eq_neg_floor_neg, ← neg_div, ← Int.cast_neg, hfloor,
      ← Int.tdiv_eq_ediv_of_nonneg hinteger, Int.neg_tdiv, neg_neg]
  · rename_i hnonneg
    have hinteger : 0 ≤ integer := not_lt.1 (mt hsign.2 hnonneg)
    rw [hfloor, Int.tdiv_eq_ediv_of_nonneg hinteger]

/-- The remainder of an integer by a whole turn. -/
theorem modulo_intCast (integer : ℤ) :
    modulo .double (.finite integer) (.finite 360) = .finite (integer % 360 : ℤ) := by
  have hremainder : (integer : ℚ) - truncate ((integer : ℚ) / 360) * 360 =
      (integer.tmod 360 : ℤ) := by
    have htruncate := truncate_intCast_div integer (by norm_num : 0 < 360)
    rw [Nat.cast_ofNat, Nat.cast_ofNat] at htruncate
    rw [htruncate, Int.tmod_def]
    push_cast
    ring
  have hlow := Int.emod_nonneg integer (by decide : (360 : ℤ) ≠ 0)
  have hhigh := Int.emod_lt_of_pos integer (by decide : (0 : ℤ) < 360)
  have hcases : integer.tmod 360 = integer % 360 ∨
      integer.tmod 360 = integer % 360 - 360 ∧ integer % 360 ≠ 0 := by
    rw [Int.tmod_eq_emod]
    split <;> omega
  have hexact (hne : integer % 360 ≠ 0) :
      ofRat .double false (integer % 360 : ℤ) = .finite (integer % 360 : ℤ) :=
    ofRat_intCast hne (by rw [abs_of_nonneg hlow]; omega) false
  unfold modulo
  simp only [value?_finite, hremainder, Int.cast_eq_zero, Int.cast_lt_zero]
  rw [if_neg (by norm_num)]
  rcases hcases with hsame | ⟨hmoved, hne⟩
  · rw [hsame]
    by_cases hzero : integer % 360 = 0
    · rw [if_pos hzero, hzero, Int.cast_zero]
      rfl
    · have hsign : (integer % 360 < 0) = ((360 : ℚ) < 0) := by
        rw [eq_iff_iff]
        exact iff_of_false (not_lt.2 hlow) (by norm_num)
      rw [if_neg hzero, if_pos hsign, hexact hzero]
  · -- a remainder below zero is moved by one turn
    have hbelow : integer.tmod 360 < 0 := by omega
    have hsign : ¬ (integer.tmod 360 < 0) = ((360 : ℚ) < 0) := by
      rw [eq_iff_iff, iff_true_left hbelow]
      norm_num
    rw [if_neg hbelow.ne, if_neg hsign, hmoved, Int.cast_sub, Int.cast_ofNat, sub_add_cancel,
      hexact hne]

end Binary

/-- The remainder of an integer in decimal by a whole turn. -/
theorem Decimal.modulo_toBinary {decimal : Decimal} (hexponent : decimal.exponent = 0)
    (hsize : |decimal.integer| ≤ 2 ^ 53) :
    Binary.modulo .double (decimal.toBinary .double) (.finite 360) =
      .finite (decimal.integer % 360 : ℤ) := by
  rw [toBinary_of_exponent_zero hexponent hsize]
  split
  · rename_i hzero
    rw [hzero]
    cases decimal.negative with
    | false => decide +kernel
    | true => decide +kernel
  · exact Binary.modulo_intCast _

end Palette
