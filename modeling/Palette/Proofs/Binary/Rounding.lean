import Mathlib.Algebra.Order.Field.Power
import Mathlib.Algebra.Order.Field.Rat
import Mathlib.Algebra.Order.Floor.Ring
import Mathlib.Data.Rat.Cast.Order
import Mathlib.Tactic.FieldSimp
import Mathlib.Tactic.Linarith
import Mathlib.Tactic.NormNum
import Mathlib.Tactic.Positivity
import Mathlib.Tactic.Ring
import Palette.Binary.Basic

/-!
# Rounding once

How far `Precision.nearest` moves a value, and what it keeps.

* `roundHalfEven` keeps the order with respect to integers, and at an even integer it
  also decides the halves (`even_le_roundHalfEven_iff`, `roundHalfEven_le_even_iff`).
* `floorLog2` is the exponent of the highest power of two that a value reaches.
* Together they bound the error of one rounding (`abs_nearest_sub_le_spacing`), and say which
  values are rounded to zero (`nearest_eq_zero_iff`).
-/

namespace Palette

/-! ## The nearest integer -/

theorem floor_le_roundHalfEven (value : ℚ) : value.floor ≤ roundHalfEven value := by
  unfold roundHalfEven
  simp only
  split
  · exact le_refl _
  · split
    · omega
    · split <;> omega

theorem roundHalfEven_le_floor_add_one (value : ℚ) : roundHalfEven value ≤ value.floor + 1 := by
  unfold roundHalfEven
  simp only
  split
  · omega
  · split
    · exact le_refl _
    · split <;> omega

/-- An integer below a value is not above what the value is rounded to. -/
theorem le_roundHalfEven {integer : ℤ} {value : ℚ} (hle : (integer : ℚ) ≤ value) :
    integer ≤ roundHalfEven value :=
  (Rat.le_floor_iff.2 hle).trans (floor_le_roundHalfEven value)

/-- The nearest integer is at most a half away. -/
theorem abs_roundHalfEven_sub_le (value : ℚ) : |(roundHalfEven value : ℚ) - value| ≤ 1 / 2 := by
  have hfloor : (value.floor : ℚ) ≤ value := Rat.floor_le value
  have hnext : value - 1 < value.floor := Rat.lt_floor
  rw [abs_le]
  unfold roundHalfEven
  simp only
  split
  · constructor <;> linarith
  · split
    · push_cast
      constructor <;> linarith
    · split
      · constructor <;> linarith
      · push_cast
        constructor <;> linarith

/-- Exactly the values from half below an even integer on are rounded to it or above. -/
theorem even_le_roundHalfEven_iff {integer : ℤ} (heven : integer % 2 = 0) (value : ℚ) :
    integer ≤ roundHalfEven value ↔ (integer : ℚ) - 1 / 2 ≤ value := by
  constructor
  · intro hle
    have hcast : (integer : ℚ) ≤ roundHalfEven value := by exact_mod_cast hle
    have herror := (abs_le.1 (abs_roundHalfEven_sub_le value)).2
    linarith
  · intro hle
    by_cases hreach : (integer : ℚ) ≤ value
    · exact le_roundHalfEven hreach
    · -- the value lies in the upper half below the integer
      have hfloor : value.floor = integer - 1 := by
        apply le_antisymm
        · have hlt : value.floor < integer := Rat.floor_lt_iff.2 (not_le.1 hreach)
          omega
        · rw [Rat.le_floor_iff]
          push_cast
          linarith
      unfold roundHalfEven
      simp only [hfloor]
      push_cast
      rw [if_neg (by linarith)]
      split
      · omega
      · rw [if_neg (by omega)]
        omega

/-- Exactly the values up to half above an even integer are rounded to it or below. -/
theorem roundHalfEven_le_even_iff {integer : ℤ} (heven : integer % 2 = 0) (value : ℚ) :
    roundHalfEven value ≤ integer ↔ value ≤ integer + 1 / 2 := by
  constructor
  · intro hle
    have hcast : (roundHalfEven value : ℚ) ≤ integer := by exact_mod_cast hle
    have herror := (abs_le.1 (abs_roundHalfEven_sub_le value)).1
    linarith
  · intro hle
    by_cases hbelow : value < integer
    · have hlt : value.floor < integer := Rat.floor_lt_iff.2 hbelow
      have hstep := roundHalfEven_le_floor_add_one value
      omega
    · -- the value lies in the lower half above the integer
      have hfloor : value.floor = integer := by
        apply le_antisymm
        · have hlt : value.floor < integer + 1 := by
            rw [Rat.floor_lt_iff]
            push_cast
            linarith
          omega
        · exact Rat.le_floor_iff.2 (not_lt.1 hbelow)
      unfold roundHalfEven
      simp only [hfloor]
      rw [if_neg (by linarith : ¬ (1 / 2 < value - (integer : ℚ))), if_pos heven]
      split <;> exact le_refl _

theorem roundHalfEven_nonneg {value : ℚ} (hvalue : 0 ≤ value) : 0 ≤ roundHalfEven value :=
  le_roundHalfEven (by exact_mod_cast hvalue)

/-- A value is rounded to zero exactly if it is at most a half away from it. -/
theorem roundHalfEven_eq_zero_iff (value : ℚ) : roundHalfEven value = 0 ↔ |value| ≤ 1 / 2 := by
  rw [le_antisymm_iff, roundHalfEven_le_even_iff (by rfl), even_le_roundHalfEven_iff (by rfl),
    abs_le]
  push_cast
  constructor
  · rintro ⟨hupper, hlower⟩
    constructor <;> linarith
  · rintro ⟨hlower, hupper⟩
    constructor <;> linarith

/-- A value is rounded to an even integer or past it, away from zero, exactly from half
before that integer on. -/
theorem even_le_abs_roundHalfEven_iff {integer : ℤ} (heven : integer % 2 = 0) (value : ℚ) :
    (integer : ℚ) ≤ |(roundHalfEven value : ℚ)| ↔ (integer : ℚ) - 1 / 2 ≤ |value| := by
  have hopposite : (integer : ℚ) ≤ -(roundHalfEven value : ℚ) ↔
      roundHalfEven value ≤ -integer := by
    rw [le_neg]
    exact_mod_cast Iff.rfl
  rw [le_abs, le_abs, hopposite, roundHalfEven_le_even_iff (by omega), Int.cast_le,
    even_le_roundHalfEven_iff heven]
  push_cast
  constructor
  · rintro (habove | hbelow)
    · exact Or.inl habove
    · exact Or.inr (by linarith)
  · rintro (habove | hbelow)
    · exact Or.inl habove
    · exact Or.inr (by linarith)

/-! ## The highest power of two -/

/-- A fraction lies within two powers of two that the lengths of its parts tell. -/
theorem quotient_log2_bounds {numerator denominator : ℕ} (hnumerator : numerator ≠ 0)
    (hdenominator : denominator ≠ 0) :
    (2 : ℚ) ^ ((numerator.log2 : ℤ) - denominator.log2 - 1) < numerator / denominator ∧
      (numerator : ℚ) / denominator < 2 ^ ((numerator.log2 : ℤ) - denominator.log2 + 1) := by
  have hpositive : (0 : ℚ) < denominator := by exact_mod_cast Nat.pos_of_ne_zero hdenominator
  have hlow : (2 : ℚ) ^ (numerator.log2 : ℤ) ≤ numerator := by
    exact_mod_cast Nat.log2_self_le hnumerator
  have hhigh : (numerator : ℚ) < 2 ^ ((numerator.log2 : ℤ) + 1) := by
    exact_mod_cast Nat.lt_log2_self
  have hdenLow : (2 : ℚ) ^ (denominator.log2 : ℤ) ≤ denominator := by
    exact_mod_cast Nat.log2_self_le hdenominator
  have hdenHigh : (denominator : ℚ) < 2 ^ ((denominator.log2 : ℤ) + 1) := by
    exact_mod_cast Nat.lt_log2_self
  constructor
  · rw [lt_div_iff₀ hpositive]
    calc (2 : ℚ) ^ ((numerator.log2 : ℤ) - denominator.log2 - 1) * denominator
        < (2 : ℚ) ^ ((numerator.log2 : ℤ) - denominator.log2 - 1) *
            2 ^ ((denominator.log2 : ℤ) + 1) := by gcongr
      _ = (2 : ℚ) ^ (numerator.log2 : ℤ) := by
          rw [← zpow_add₀ two_ne_zero]
          congr 1
          ring
      _ ≤ numerator := hlow
  · rw [div_lt_iff₀ hpositive]
    calc (numerator : ℚ) < 2 ^ ((numerator.log2 : ℤ) + 1) := hhigh
      _ = 2 ^ ((numerator.log2 : ℤ) - denominator.log2 + 1) * 2 ^ (denominator.log2 : ℤ) := by
          rw [← zpow_add₀ two_ne_zero]
          congr 1
          ring
      _ ≤ 2 ^ ((numerator.log2 : ℤ) - denominator.log2 + 1) * denominator := by gcongr

/-- A positive value lies between its power of two and the next one. -/
theorem floorLog2_bounds {value : ℚ} (hvalue : 0 < value) :
    (2 : ℚ) ^ floorLog2 value ≤ value ∧ value < (2 : ℚ) ^ (floorLog2 value + 1) := by
  have hnum : value.num.natAbs ≠ 0 := Int.natAbs_ne_zero.2 (Rat.num_pos.2 hvalue).ne'
  have hquotient : (value.num.natAbs : ℚ) / value.den = value := by
    rw [Nat.cast_natAbs, abs_of_pos (Rat.num_pos.2 hvalue), Rat.num_div_den]
  obtain ⟨hbelow, habove⟩ := quotient_log2_bounds hnum value.den_nz
  rw [hquotient] at hbelow habove
  -- numerator and denominator leave two possible powers
  unfold floorLog2
  simp only
  split
  · rename_i hreach
    exact ⟨hreach, habove⟩
  · rename_i hreach
    rw [sub_add_cancel]
    exact ⟨hbelow.le, not_le.1 hreach⟩

theorem abs_eq_abs (value : ℚ) : value.abs = |value| := by
  unfold Rat.abs
  split
  · rename_i hvalue
    exact (abs_of_nonneg hvalue).symm
  · rename_i hvalue
    exact (abs_of_neg (not_le.1 hvalue)).symm

namespace Precision

variable (precision : Precision)

/-- The distance of neighbouring numbers is a power of two. -/
theorem spacing_eq (value : ℚ) : precision.spacing value =
    2 ^ max (floorLog2 |value| - precision.bits + 1) precision.leastExponent := by
  rw [spacing, abs_eq_abs]

theorem spacing_pos (value : ℚ) : 0 < precision.spacing value := by
  rw [spacing_eq]
  positivity

/-- Neighbouring numbers are as far apart as the last bit of the value, or as the last
bit of the smallest numbers. -/
theorem spacing_le (value : ℚ) (hvalue : value ≠ 0) :
    precision.spacing value ≤
      |value| * 2 ^ (1 - (precision.bits : ℤ)) + 2 ^ precision.leastExponent := by
  have hreach := (floorLog2_bounds (abs_pos.2 hvalue)).1
  rw [spacing_eq]
  rcases le_total (floorLog2 |value| - precision.bits + 1) precision.leastExponent with hle | hle
  · rw [max_eq_right hle]
    have : 0 ≤ |value| * 2 ^ (1 - (precision.bits : ℤ)) := by positivity
    linarith
  · rw [max_eq_left hle, show floorLog2 |value| - precision.bits + 1 =
      floorLog2 |value| + (1 - precision.bits) by ring, zpow_add₀ two_ne_zero]
    have hleast : (0 : ℚ) < 2 ^ precision.leastExponent := by positivity
    have hscaled : (2 : ℚ) ^ floorLog2 |value| * 2 ^ (1 - (precision.bits : ℤ)) ≤
        |value| * 2 ^ (1 - (precision.bits : ℤ)) := by gcongr
    linarith

/-- One rounding moves a value by at most half the distance of neighbouring numbers. -/
theorem abs_nearest_sub_le_spacing (value : ℚ) :
    |precision.nearest value - value| ≤ precision.spacing value / 2 := by
  have hspacing := precision.spacing_pos value
  unfold nearest
  split
  · rename_i hzero
    rw [hzero, sub_zero, abs_zero]
    have := precision.spacing_pos 0
    linarith
  · have herror := abs_roundHalfEven_sub_le (value / precision.spacing value)
    have hscale : (roundHalfEven (value / precision.spacing value) : ℚ) *
        precision.spacing value - value =
        (roundHalfEven (value / precision.spacing value) - value / precision.spacing value) *
          precision.spacing value := by
      field_simp
    rw [hscale, abs_mul, abs_of_pos hspacing]
    calc |(roundHalfEven (value / precision.spacing value) : ℚ) - value / precision.spacing value| *
          precision.spacing value ≤ 1 / 2 * precision.spacing value := by gcongr
      _ = precision.spacing value / 2 := by ring

theorem nearest_nonneg {value : ℚ} (hvalue : 0 ≤ value) : 0 ≤ precision.nearest value := by
  have hspacing := precision.spacing_pos value
  unfold nearest
  split
  · exact le_refl _
  · have hround := roundHalfEven_nonneg (div_nonneg hvalue hspacing.le)
    have hcast : (0 : ℚ) ≤ roundHalfEven (value / precision.spacing value) := by
      exact_mod_cast hround
    positivity

theorem nearest_of_ne_zero {value : ℚ} (hvalue : value ≠ 0) : precision.nearest value =
    roundHalfEven (value / precision.spacing value) * precision.spacing value := by
  rw [nearest, if_neg hvalue]

/-- A value is rounded to zero exactly if it is at most half the smallest number. -/
theorem nearest_eq_zero_iff (hbits : 1 ≤ precision.bits) (value : ℚ) :
    precision.nearest value = 0 ↔ |value| ≤ 2 ^ precision.leastExponent / 2 := by
  by_cases hvalue : value = 0
  · subst hvalue
    rw [nearest, if_pos rfl, abs_zero]
    exact ⟨fun _ => by positivity, fun _ => rfl⟩
  · have hspacing := precision.spacing_pos value
    have hround : precision.nearest value = 0 ↔ |value| ≤ precision.spacing value / 2 := by
      rw [precision.nearest_of_ne_zero hvalue, mul_eq_zero, or_iff_left hspacing.ne',
        Int.cast_eq_zero, roundHalfEven_eq_zero_iff, abs_div, abs_of_pos hspacing,
        div_le_iff₀ hspacing, one_div_mul_eq_div]
    have hreach := (floorLog2_bounds (abs_pos.2 hvalue)).1
    have hleast : (0 : ℚ) < 2 ^ precision.leastExponent := by positivity
    rw [hround, spacing_eq]
    rcases le_total (floorLog2 |value| - precision.bits + 1) precision.leastExponent with hle | hle
    · rw [max_eq_right hle]
    · -- the value reaches the distance of its neighbours, so it is not rounded to zero
      rw [max_eq_left hle]
      have hlast : (2 : ℚ) ^ (floorLog2 |value| - precision.bits + 1) ≤ |value| :=
        (zpow_le_zpow_right₀ one_le_two (by omega)).trans hreach
      have hsmallest : (2 : ℚ) ^ precision.leastExponent ≤
          2 ^ (floorLog2 |value| - precision.bits + 1) := zpow_le_zpow_right₀ one_le_two hle
      constructor
      · intro hhalf
        linarith
      · intro hhalf
        linarith

theorem abs_nearest_of_ne_zero {value : ℚ} (hvalue : value ≠ 0) : |precision.nearest value| =
    |(roundHalfEven (value / precision.spacing value) : ℚ)| * precision.spacing value := by
  rw [precision.nearest_of_ne_zero hvalue, abs_mul, abs_of_pos (precision.spacing_pos value)]

/-- A value is rounded to an even count of steps or past it, away from zero, exactly from
half a step before that count on. -/
theorem even_steps_le_abs_nearest_iff {count : ℤ} (heven : count % 2 = 0) {value : ℚ}
    (hvalue : value ≠ 0) :
    count * precision.spacing value ≤ |precision.nearest value| ↔
      count * precision.spacing value - precision.spacing value / 2 ≤ |value| := by
  have hspacing := precision.spacing_pos value
  rw [precision.abs_nearest_of_ne_zero hvalue, mul_le_mul_iff_left₀ hspacing,
    even_le_abs_roundHalfEven_iff heven, abs_div, abs_of_pos hspacing, le_div_iff₀ hspacing,
    sub_mul, one_div_mul_eq_div]

theorem two_pow_mod_two {exponent : ℕ} (hexponent : exponent ≠ 0) :
    (2 ^ exponent : ℤ) % 2 = 0 := by
  obtain ⟨smaller, rfl⟩ := Nat.exists_eq_succ_of_ne_zero hexponent
  rw [pow_succ]
  omega

/-- Rounding does not take a value below its power of two. -/
theorem zpow_floorLog2_le_abs_nearest (hbits : 2 ≤ precision.bits) {value : ℚ}
    (hvalue : value ≠ 0)
    (hnormal : precision.leastExponent ≤ floorLog2 |value| - precision.bits + 1) :
    2 ^ floorLog2 |value| ≤ |precision.nearest value| := by
  have hspacing := precision.spacing_pos value
  have hreach := (floorLog2_bounds (abs_pos.2 hvalue)).1
  have hcount : (2 : ℚ) ^ floorLog2 |value| =
      ((2 ^ (precision.bits - 1) : ℤ) : ℚ) * precision.spacing value := by
    rw [spacing_eq, max_eq_left hnormal]
    push_cast
    rw [← zpow_natCast, ← zpow_add₀ two_ne_zero]
    congr 1
    omega
  rw [hcount, precision.even_steps_le_abs_nearest_iff (two_pow_mod_two (by omega)) hvalue, ← hcount]
  linarith

/-- A value is rounded past the largest numbers exactly from half a step below the power
of two at which they end. -/
theorem limit_le_abs_nearest_iff (hbits : 2 ≤ precision.bits)
    (hrange : precision.leastExponent + precision.bits ≤ precision.limitExponent) (value : ℚ) :
    2 ^ precision.limitExponent ≤ |precision.nearest value| ↔
      2 ^ precision.limitExponent - 2 ^ (precision.limitExponent - precision.bits) / 2 ≤ |value| := by
  have hhalf : (2 : ℚ) ^ precision.limitExponent = 2 * 2 ^ (precision.limitExponent - 1) := by
    rw [← zpow_one_add₀ two_ne_zero]
    congr 1
    ring
  have hstep : (2 : ℚ) ^ (precision.limitExponent - precision.bits) ≤
      2 ^ (precision.limitExponent - 1) := zpow_le_zpow_right₀ one_le_two (by omega)
  have hpositive : (0 : ℚ) < 2 ^ (precision.limitExponent - precision.bits) := by positivity
  by_cases hvalue : value = 0
  · subst hvalue
    rw [nearest, if_pos rfl, abs_zero]
    constructor <;> (intro hle; linarith)
  obtain ⟨hreach, hnext⟩ := floorLog2_bounds (abs_pos.2 hvalue)
  rcases lt_trichotomy (floorLog2 |value|) (precision.limitExponent - 1) with hlow | heq | hhigh
  · -- the value is below half the limit, and rounding moves it less than another quarter
    have hvalueLow : |value| < 2 ^ (precision.limitExponent - 1) :=
      hnext.trans_le (zpow_le_zpow_right₀ one_le_two (by omega))
    have hspacingLow : precision.spacing value ≤
        2 ^ (precision.limitExponent - precision.bits) := by
      rw [spacing_eq]
      exact zpow_le_zpow_right₀ one_le_two (by omega)
    have herror := precision.abs_nearest_sub_le_spacing value
    have htriangle := abs_sub_abs_le_abs_sub (precision.nearest value) value
    constructor <;> (intro hle; linarith)
  · -- in the last binade the limit is an even count of steps
    have hlast : precision.spacing value = 2 ^ (precision.limitExponent - precision.bits) := by
      rw [spacing_eq, heq]
      congr 1
      omega
    have hcount : (2 : ℚ) ^ precision.limitExponent =
        ((2 ^ precision.bits : ℤ) : ℚ) * precision.spacing value := by
      rw [hlast]
      push_cast
      rw [← zpow_natCast, ← zpow_add₀ two_ne_zero]
      congr 1
      ring
    rw [hcount, ← hlast,
      precision.even_steps_le_abs_nearest_iff (two_pow_mod_two (by omega)) hvalue]
  · -- past the limit both sides hold
    have hrounded := precision.zpow_floorLog2_le_abs_nearest hbits hvalue (by omega)
    have hlimit : (2 : ℚ) ^ precision.limitExponent ≤ 2 ^ floorLog2 |value| :=
      zpow_le_zpow_right₀ one_le_two (by omega)
    exact ⟨fun _ => by linarith, fun _ => hlimit.trans hrounded⟩

end Precision

namespace Binary

/-- A rounded value is a zero, an infinity or the nearest number, and its magnitude tells
which of them. -/
theorem ofRat_eq {precision : Precision} (hbits : 2 ≤ precision.bits)
    (hrange : precision.leastExponent + precision.bits ≤ precision.limitExponent)
    (negative : Bool) (value : ℚ) :
    ofRat precision negative value =
      if |value| ≤ 2 ^ precision.leastExponent / 2 then
        zero (if value = 0 then negative else value < 0)
      else if 2 ^ precision.limitExponent - 2 ^ (precision.limitExponent - precision.bits) / 2 ≤
          |value| then infinity (value < 0)
      else finite (precision.nearest value) := by
  have habs : (precision.nearest value).abs = |precision.nearest value| := abs_eq_abs _
  simp only [ofRat, habs, precision.nearest_eq_zero_iff (by omega : 1 ≤ precision.bits),
    precision.limit_le_abs_nearest_iff hbits hrange]

end Binary

end Palette
