import Palette.Binary.Decimal
import Palette.Proofs.Binary.Rounding

/-!
# Numerals as numbers

A value becomes an infinity if it is huge (`IsHuge`) and a zero if it is tiny (`IsTiny`),
and otherwise the nearest number of 64 bits.

For a numeral far outside the range of these numbers, the count of its digits alone
decides.  This changes no result: a numeral as a number is its exact value, rounded once
(`toBinary_eq_ofRat`).  A zero and an infinity keep the sign of the numeral.
-/

namespace Palette

namespace Binary

/-- The value is rounded to an infinity. -/
def IsHuge (value : ℚ) : Prop :=
  2 ^ 1024 - 2 ^ 970 ≤ |value|

/-- The value is rounded to a zero. -/
def IsTiny (value : ℚ) : Prop :=
  |value| ≤ 1 / 2 ^ 1075

instance : DecidablePred IsHuge := fun _ => inferInstanceAs (Decidable (_ ≤ _))

instance : DecidablePred IsTiny := fun _ => inferInstanceAs (Decidable (_ ≤ _))

theorem isTiny_zero : IsTiny 0 := by
  rw [IsTiny, abs_zero]
  positivity

/-- No huge value is small.  The bound is far from sharp. -/
theorem IsHuge.two_pow_le {value : ℚ} (hhuge : IsHuge value) : 2 ^ 53 ≤ |value| := by
  have hsum : (2 : ℚ) ^ 1024 = 2 ^ 970 * 2 ^ 54 := by rw [← pow_add]
  have hstep : (1 : ℚ) ≤ 2 ^ 970 := one_le_pow₀ one_le_two
  refine le_trans ?_ hhuge
  rw [hsum]
  generalize (2 : ℚ) ^ 970 = step at hstep
  norm_num
  linarith

theorem IsHuge.not_isTiny {value : ℚ} (hhuge : IsHuge value) : ¬ IsTiny value := by
  have hsmall : (1 : ℚ) / 2 ^ 1075 ≤ 1 := by
    rw [div_le_one (by positivity)]
    exact one_le_pow₀ one_le_two
  intro htiny
  exact absurd (hhuge.two_pow_le.trans (htiny.trans hsmall)) (by norm_num)

/-! ## Numbers of 64 bits -/

@[simp] theorem value?_zero (negative : Bool) : (zero negative).value? = some 0 := by
  cases negative <;> rfl

theorem ofRat_double (negative : Bool) (value : ℚ) :
    ofRat .double negative value =
      if IsTiny value then zero (if value = 0 then negative else value < 0)
      else if IsHuge value then infinity (value < 0)
      else finite (Precision.double.nearest value) := by
  have hzero : (2 : ℚ) ^ Precision.double.leastExponent / 2 = 1 / 2 ^ 1075 := by
    show (2 : ℚ) ^ (-(1074 : ℕ) : ℤ) / 2 = 1 / 2 ^ 1075
    rw [zpow_neg, zpow_natCast, inv_eq_one_div, div_div, ← pow_succ]
  have hlimit : (2 : ℚ) ^ Precision.double.limitExponent = 2 ^ 1024 := zpow_natCast 2 1024
  have hlast : (2 : ℚ) ^ (Precision.double.limitExponent - Precision.double.bits) / 2 =
      2 ^ 970 := by
    show (2 : ℚ) ^ ((971 : ℕ) : ℤ) / 2 = 2 ^ 970
    rw [zpow_natCast, pow_succ, mul_div_cancel_right₀ _ two_ne_zero]
  rw [ofRat_eq (by decide) (by decide), hzero, hlimit, hlast]
  rfl

theorem ofRat_of_isTiny {value : ℚ} (htiny : IsTiny value) (negative : Bool) :
    ofRat .double negative value = zero (if value = 0 then negative else value < 0) := by
  rw [ofRat_double, if_pos htiny]

theorem ofRat_of_isHuge {value : ℚ} (hhuge : IsHuge value) (negative : Bool) :
    ofRat .double negative value = infinity (value < 0) := by
  rw [ofRat_double, if_neg hhuge.not_isTiny, if_pos hhuge]

/-- A value that is neither tiny nor huge is rounded to the nearest number. -/
theorem ofRat_of_moderate {value : ℚ} (htiny : ¬ IsTiny value) (hhuge : ¬ IsHuge value)
    (negative : Bool) : ofRat .double negative value = finite (Precision.double.nearest value) := by
  rw [ofRat_double, if_neg htiny, if_neg hhuge]

end Binary

namespace Decimal

open Binary

/-! ## The value of a numeral -/

theorem abs_toRat (decimal : Decimal) :
    |decimal.toRat| = decimal.digits * 10 ^ decimal.exponent := by
  have hmagnitude : (0 : ℚ) ≤ decimal.digits * 10 ^ decimal.exponent := by positivity
  unfold toRat
  simp only
  split
  · rw [abs_neg, abs_of_nonneg hmagnitude]
  · rw [abs_of_nonneg hmagnitude]

theorem toRat_eq_zero_iff (decimal : Decimal) : decimal.toRat = 0 ↔ decimal.digits = 0 := by
  rw [← abs_eq_zero, abs_toRat, mul_eq_zero, Nat.cast_eq_zero, or_iff_left (by positivity)]

/-- A numeral that is not zero has the sign of its value. -/
theorem decide_toRat_neg {decimal : Decimal} (hdigits : decimal.digits ≠ 0) :
    decide (decimal.toRat < 0) = decimal.negative := by
  have hmagnitude : (0 : ℚ) < decimal.digits * 10 ^ decimal.exponent := by
    have : (0 : ℚ) < decimal.digits := by exact_mod_cast Nat.pos_of_ne_zero hdigits
    positivity
  unfold toRat
  cases decimal.negative with
  | false => simpa using hmagnitude.le
  | true => simpa using hmagnitude

/-! ## Powers of two and of ten -/

theorem two_pow_le_ten_pow {exponent tens : ℕ} (hle : exponent ≤ 3 * tens) :
    (2 : ℚ) ^ exponent ≤ 10 ^ tens := by
  calc (2 : ℚ) ^ exponent ≤ 2 ^ (3 * tens) := pow_le_pow_right₀ one_le_two hle
    _ = 8 ^ tens := by
        rw [pow_mul]
        norm_num
    _ ≤ 10 ^ tens := by
        gcongr
        norm_num

theorem ten_pow_le_two_pow {exponent tens : ℕ} (hle : 4 * tens ≤ exponent) :
    (10 : ℚ) ^ tens ≤ 2 ^ exponent := by
  calc (10 : ℚ) ^ tens ≤ 16 ^ tens := by
        gcongr
        norm_num
    _ = 2 ^ (4 * tens) := by
        rw [pow_mul]
        norm_num
    _ ≤ 2 ^ exponent := pow_le_pow_right₀ one_le_two hle

/-- A numeral with so many digits before its point is huge. -/
theorem isHuge_of_exponent {decimal : Decimal} (hdigits : decimal.digits ≠ 0)
    (hexponent : 400 < decimal.exponent + (decimal.digits.log2 : ℤ) / 4) :
    IsHuge decimal.toRat := by
  have hlow : (10 : ℚ) ^ (decimal.digits.log2 / 4) ≤ decimal.digits := by
    calc (10 : ℚ) ^ (decimal.digits.log2 / 4) ≤ 2 ^ decimal.digits.log2 :=
          ten_pow_le_two_pow (by omega)
      _ ≤ decimal.digits := by exact_mod_cast Nat.log2_self_le hdigits
  have hstep : (0 : ℚ) ≤ 2 ^ 970 := by positivity
  unfold IsHuge
  calc (2 : ℚ) ^ 1024 - 2 ^ 970 ≤ 2 ^ 1024 := sub_le_self _ hstep
    _ ≤ 10 ^ (400 : ℕ) := two_pow_le_ten_pow (by norm_num)
    _ = 10 ^ (400 : ℤ) := (zpow_natCast 10 400).symm
    _ ≤ 10 ^ ((decimal.digits.log2 / 4 : ℕ) + decimal.exponent : ℤ) :=
        zpow_le_zpow_right₀ (by norm_num) (by omega)
    _ = 10 ^ (decimal.digits.log2 / 4) * 10 ^ decimal.exponent := by
        rw [zpow_add₀ (by norm_num), zpow_natCast]
    _ ≤ decimal.digits * 10 ^ decimal.exponent := by gcongr
    _ = |decimal.toRat| := decimal.abs_toRat.symm

/-- A numeral with so many zeros behind its point is tiny. -/
theorem isTiny_of_exponent {decimal : Decimal}
    (hexponent : decimal.exponent + (decimal.digits.log2 : ℤ) / 3 + 1 < -400) :
    IsTiny decimal.toRat := by
  have hhigh : (decimal.digits : ℚ) ≤ 10 ^ (decimal.digits.log2 / 3 + 1) := by
    calc (decimal.digits : ℚ) ≤ 2 ^ (decimal.digits.log2 + 1) := by
          exact_mod_cast Nat.lt_log2_self.le
      _ ≤ 10 ^ (decimal.digits.log2 / 3 + 1) := two_pow_le_ten_pow (by omega)
  unfold IsTiny
  calc |decimal.toRat| = decimal.digits * 10 ^ decimal.exponent := decimal.abs_toRat
    _ ≤ 10 ^ (decimal.digits.log2 / 3 + 1) * 10 ^ decimal.exponent := by gcongr
    _ = 10 ^ ((decimal.digits.log2 / 3 + 1 : ℕ) + decimal.exponent : ℤ) := by
        rw [zpow_add₀ (by norm_num), zpow_natCast]
    _ ≤ 10 ^ (-(400 : ℕ) : ℤ) := zpow_le_zpow_right₀ (by norm_num) (by omega)
    _ = 1 / 10 ^ 400 := by rw [zpow_neg, zpow_natCast, one_div]
    _ ≤ 1 / 2 ^ 1075 := by
        gcongr
        exact two_pow_le_ten_pow (by norm_num)

/-! ## One rounding -/

/-- The count of digits never decides otherwise than rounding does. -/
theorem toBinary_eq_ofRat (decimal : Decimal) :
    decimal.toBinary .double = ofRat .double decimal.negative decimal.toRat := by
  unfold toBinary
  simp only
  split
  · rename_i hdigits
    have hvalue : decimal.toRat = 0 := decimal.toRat_eq_zero_iff.2 hdigits
    rw [hvalue, ofRat_of_isTiny isTiny_zero, if_pos rfl]
  · rename_i hdigits
    have hvalue : decimal.toRat ≠ 0 := fun hzero => hdigits (decimal.toRat_eq_zero_iff.1 hzero)
    split
    · rename_i hexponent
      rw [ofRat_of_isHuge (isHuge_of_exponent hdigits hexponent), decide_toRat_neg hdigits]
    · split
      · rename_i hexponent
        rw [ofRat_of_isTiny (isTiny_of_exponent hexponent), if_neg hvalue,
          decide_toRat_neg hdigits]
      · rfl

theorem toBinary_of_isTiny {decimal : Decimal} (htiny : IsTiny decimal.toRat) :
    decimal.toBinary .double = zero decimal.negative := by
  rw [toBinary_eq_ofRat, ofRat_of_isTiny htiny]
  split
  · rfl
  · rename_i hvalue
    rw [decide_toRat_neg fun hdigits => hvalue (decimal.toRat_eq_zero_iff.2 hdigits)]

theorem toBinary_of_isHuge {decimal : Decimal} (hhuge : IsHuge decimal.toRat) :
    decimal.toBinary .double = infinity decimal.negative := by
  have hdigits : decimal.digits ≠ 0 := by
    intro hzero
    rw [decimal.toRat_eq_zero_iff.2 hzero] at hhuge
    exact hhuge.not_isTiny isTiny_zero
  rw [toBinary_eq_ofRat, ofRat_of_isHuge hhuge, decide_toRat_neg hdigits]

theorem toBinary_of_moderate {decimal : Decimal} (htiny : ¬ IsTiny decimal.toRat)
    (hhuge : ¬ IsHuge decimal.toRat) :
    decimal.toBinary .double = finite (Precision.double.nearest decimal.toRat) := by
  rw [toBinary_eq_ofRat, ofRat_of_moderate htiny hhuge]

/-- A numeral has a value as a number unless it is huge. -/
theorem value?_toBinary_eq_none_iff (decimal : Decimal) :
    (decimal.toBinary .double).value? = none ↔ IsHuge decimal.toRat := by
  by_cases hhuge : IsHuge decimal.toRat
  · rw [toBinary_of_isHuge hhuge]
    exact ⟨fun _ => hhuge, fun _ => rfl⟩
  · refine ⟨fun hnone => ?_, fun hvalue => absurd hvalue hhuge⟩
    by_cases htiny : IsTiny decimal.toRat
    · rw [toBinary_of_isTiny htiny, value?_zero] at hnone
      cases hnone
    · rw [toBinary_of_moderate htiny hhuge] at hnone
      cases hnone

/-- Exactly the tiny numerals with a minus sign become the zero with a minus sign. -/
theorem toBinary_eq_negativeZero_iff (decimal : Decimal) :
    decimal.toBinary .double = negativeZero ↔
      decimal.negative = true ∧ IsTiny decimal.toRat := by
  by_cases htiny : IsTiny decimal.toRat
  · rw [toBinary_of_isTiny htiny]
    cases decimal.negative <;> simp [zero, htiny]
  · refine ⟨fun hzero => ?_, fun hboth => absurd hboth.2 htiny⟩
    by_cases hhuge : IsHuge decimal.toRat
    · rw [toBinary_of_isHuge hhuge] at hzero
      cases hzero
    · rw [toBinary_of_moderate htiny hhuge] at hzero
      cases hzero

end Decimal

end Palette
