import Palette.Proofs.Binary.Numeral

/-!
# Numbers between bounds

`Between number low high` says that a number is finite, carries no minus sign and lies
between two bounds.  Each operation on such numbers gives such a number, and widens the
bounds of the exact result by `roundingError` at most.  Where a difference may be
negative, `Bounded` gives a bound on the magnitude alone.

The magnitudes are kept below `2 ^ 20`, so one error serves for all roundings.
-/

namespace Palette.Binary

/-- How far one rounding moves a value of at most `2 ^ 20`. -/
def roundingError : ℚ := 1 / 2 ^ 32

theorem roundingError_pos : 0 < roundingError := by
  unfold roundingError
  positivity

/-- The number is finite without a minus sign, and lies between two bounds. -/
def Between (number : Binary) (low high : ℚ) : Prop :=
  ∃ value, number = finite value ∧ 0 ≤ value ∧ low ≤ value ∧ value ≤ high

/-- The number has a value of at most this magnitude. -/
def Bounded (number : Binary) (limit : ℚ) : Prop :=
  ∃ value, number.value? = some value ∧ |value| ≤ limit

/-! ## One rounding -/

theorem not_isHuge_of_le {value : ℚ} (hvalue : |value| ≤ 2 ^ 20) : ¬ IsHuge value :=
  fun hhuge => absurd (hhuge.two_pow_le.trans hvalue) (by norm_num)

theorem abs_nearest_sub_le {value : ℚ} (hvalue : |value| ≤ 2 ^ 20) :
    |Precision.double.nearest value - value| ≤ roundingError := by
  have herror := Precision.double.abs_nearest_sub_le_spacing value
  by_cases hzero : value = 0
  · subst hzero
    rw [Precision.nearest, if_pos rfl, sub_zero, abs_zero]
    exact roundingError_pos.le
  · have hspacing := Precision.double.spacing_le value hzero
    have hbits : (2 : ℚ) ^ (1 - (Precision.double.bits : ℤ)) = 1 / 2 ^ 52 := by
      show (2 : ℚ) ^ (-(52 : ℕ) : ℤ) = 1 / 2 ^ 52
      rw [zpow_neg, zpow_natCast, one_div]
    have hleast : (2 : ℚ) ^ Precision.double.leastExponent ≤ 1 / 2 ^ 32 := by
      show (2 : ℚ) ^ (-(1074 : ℕ) : ℤ) ≤ 1 / 2 ^ 32
      rw [zpow_neg, zpow_natCast, one_div]
      gcongr <;> norm_num
    rw [hbits] at hspacing
    unfold roundingError
    norm_num at hvalue hspacing hleast ⊢
    linarith

theorem isTiny_le_roundingError {value : ℚ} (htiny : IsTiny value) : |value| ≤ roundingError := by
  refine htiny.trans ?_
  unfold roundingError
  gcongr <;> norm_num

/-- A rounded value of moderate size has a value again. -/
theorem exists_value?_ofRat {value : ℚ} (hvalue : |value| ≤ 2 ^ 20) (negative : Bool) :
    ∃ rounded, (ofRat .double negative value).value? = some rounded ∧
      |rounded - value| ≤ roundingError := by
  by_cases htiny : IsTiny value
  · refine ⟨0, by rw [ofRat_of_isTiny htiny, value?_zero], ?_⟩
    rw [zero_sub, abs_neg]
    exact isTiny_le_roundingError htiny
  · refine ⟨_, by rw [ofRat_of_moderate htiny (not_isHuge_of_le hvalue), value?_finite], ?_⟩
    exact abs_nearest_sub_le hvalue

/-- A rounded value that is not negative carries no minus sign. -/
theorem between_ofRat {value low high : ℚ} (hnonneg : 0 ≤ value) (hlow : low ≤ value)
    (hhigh : value ≤ high) (hlimit : high ≤ 2 ^ 20) :
    Between (ofRat .double false value) (low - roundingError) (high + roundingError) := by
  have hvalue : |value| ≤ 2 ^ 20 := by
    rw [abs_of_nonneg hnonneg]
    exact hhigh.trans hlimit
  obtain ⟨rounded, hrounded, herror⟩ := exists_value?_ofRat hvalue false
  rw [abs_le] at herror
  by_cases htiny : IsTiny value
  · have hzero : ofRat .double false value = finite 0 := by
      rw [ofRat_of_isTiny htiny]
      split
      · rfl
      · rw [decide_eq_false (not_lt.2 hnonneg)]
        rfl
    rw [hzero, value?_finite, Option.some.injEq] at hrounded
    exact ⟨0, hzero, le_refl _, by linarith, by linarith⟩
  · have hnearest := ofRat_of_moderate htiny (not_isHuge_of_le hvalue) false
    rw [hnearest, value?_finite, Option.some.injEq] at hrounded
    subst hrounded
    exact ⟨_, hnearest, Precision.double.nearest_nonneg hnonneg, by linarith, by linarith⟩

/-! ## Numbers without a minus sign -/

section

variable {first second : Binary} {low high least most : ℚ}

theorem between_finite {value : ℚ} (hvalue : 0 ≤ value) : Between (finite value) value value :=
  ⟨value, rfl, hvalue, le_refl _, le_refl _⟩

theorem Between.mono (hfirst : Between first low high) (hleast : least ≤ low)
    (hmost : high ≤ most) : Between first least most := by
  obtain ⟨value, hvalue, hnonneg, hlow, hhigh⟩ := hfirst
  exact ⟨value, hvalue, hnonneg, hleast.trans hlow, hhigh.trans hmost⟩

theorem Between.nonneg (hfirst : Between first low high) : Between first 0 high := by
  obtain ⟨value, hvalue, hnonneg, -, hhigh⟩ := hfirst
  exact ⟨value, hvalue, hnonneg, hnonneg, hhigh⟩

theorem Between.bounded (hfirst : Between first low high) : Bounded first high := by
  obtain ⟨value, rfl, hnonneg, -, hhigh⟩ := hfirst
  exact ⟨value, rfl, by rwa [abs_of_nonneg hnonneg]⟩

theorem isNegative_finite {value : ℚ} (hvalue : 0 ≤ value) : isNegative (finite value) = false :=
  decide_eq_false (not_lt.2 hvalue)

theorem sub_finite (precision : Precision) (left right : ℚ) :
    sub precision (finite left) (finite right) = ofRat precision false (left - right) := by
  -- the opposite of zero is the one that is not finite here
  by_cases hzero : right = 0
  · have hneg : (finite right).neg = negativeZero := if_pos hzero
    calc sub precision (finite left) (finite right)
        = add precision (finite left) negativeZero := by rw [Binary.sub, hneg]
      _ = ofRat precision false (left + 0) := rfl
      _ = ofRat precision false (left - right) := by rw [hzero, add_zero, sub_zero]
  · have hneg : (finite right).neg = finite (-right) := if_neg hzero
    rw [Binary.sub, hneg, sub_eq_add_neg]
    rfl

theorem Between.add (hfirst : Between first low high) (hsecond : Between second least most)
    (hlimit : high + most ≤ 2 ^ 20) :
    Between (add .double first second) (low + least - roundingError)
      (high + most + roundingError) := by
  obtain ⟨left, rfl, hleft, hlow, hhigh⟩ := hfirst
  obtain ⟨right, rfl, hright, hleast, hmost⟩ := hsecond
  exact between_ofRat (add_nonneg hleft hright) (add_le_add hlow hleast)
    (add_le_add hhigh hmost) hlimit

theorem Between.sub (hfirst : Between first low high) (hsecond : Between second least most)
    (horder : most ≤ low) (hlimit : high - least ≤ 2 ^ 20) :
    Between (sub .double first second) (low - most - roundingError)
      (high - least + roundingError) := by
  obtain ⟨left, rfl, -, hlow, hhigh⟩ := hfirst
  obtain ⟨right, rfl, -, hleast, hmost⟩ := hsecond
  rw [sub_finite]
  exact between_ofRat (by linarith) (by linarith) (by linarith) hlimit

theorem Between.mul (hfirst : Between first low high) (hsecond : Between second least most)
    (hleast : 0 ≤ least) (hlimit : high * most ≤ 2 ^ 20) :
    Between (mul .double first second) (low * least - roundingError)
      (high * most + roundingError) := by
  obtain ⟨left, rfl, hleft, hlow, hhigh⟩ := hfirst
  obtain ⟨right, rfl, hright, hbelow, habove⟩ := hsecond
  have hnonneg : 0 ≤ high := hleft.trans hhigh
  have hproduct : mul .double (finite left) (finite right) =
      ofRat .double false (left * right) := by
    simp only [Binary.mul, value?_finite, isNegative_finite hleft, isNegative_finite hright,
      bne_self_eq_false]
  rw [hproduct]
  refine between_ofRat (mul_nonneg hleft hright) ?_ (by gcongr) hlimit
  calc low * least ≤ left * least := by gcongr
    _ ≤ left * right := by gcongr

theorem Between.div (hfirst : Between first low high) (hsecond : Between second least most)
    (hleast : 0 < least) (hlimit : high / least ≤ 2 ^ 20) :
    Between (div .double first second) (low / most - roundingError)
      (high / least + roundingError) := by
  obtain ⟨left, rfl, hleft, hlow, hhigh⟩ := hfirst
  obtain ⟨right, rfl, hright, hbelow, habove⟩ := hsecond
  have hpositive : 0 < right := hleast.trans_le hbelow
  have hnonneg : 0 ≤ high := hleft.trans hhigh
  have hquotient : div .double (finite left) (finite right) =
      ofRat .double false (left / right) := by
    simp only [Binary.div, value?_finite, if_neg hpositive.ne', isNegative_finite hleft,
      isNegative_finite hright, bne_self_eq_false]
  rw [hquotient]
  refine between_ofRat (div_nonneg hleft hright) ?_ (by gcongr) hlimit
  calc low / most ≤ left / most := by gcongr; exact hright.trans habove
    _ ≤ left / right := by gcongr

end

/-! ## Numbers with either sign -/

section

variable {first second : Binary} {limit bound : ℚ}

theorem Bounded.mono (hfirst : Bounded first limit) (hle : limit ≤ bound) :
    Bounded first bound := by
  obtain ⟨value, hvalue, hlimit⟩ := hfirst
  exact ⟨value, hvalue, hlimit.trans hle⟩

theorem Bounded.neg (hfirst : Bounded first limit) : Bounded first.neg limit := by
  obtain ⟨value, hvalue, hlimit⟩ := hfirst
  cases first with
  | nan => cases hvalue
  | infinity negative => cases hvalue
  | negativeZero =>
      cases hvalue
      exact ⟨0, rfl, hlimit⟩
  | finite number =>
      cases hvalue
      by_cases hzero : value = 0
      · exact ⟨0, by simp [Binary.neg, hzero], by rwa [← hzero]⟩
      · exact ⟨-value, by simp [Binary.neg, hzero], by rwa [abs_neg]⟩

/-- The value of a rounded sum. -/
theorem exists_value?_add {left right : ℚ} (hleft : first.value? = some left)
    (hright : second.value? = some right) (hlimit : |left + right| ≤ 2 ^ 20) :
    ∃ sum, (add .double first second).value? = some sum ∧
      |sum - (left + right)| ≤ roundingError := by
  have hround := exists_value?_ofRat hlimit false
  cases first with
  | nan => cases hleft
  | infinity negative => cases hleft
  | negativeZero =>
      cases hleft
      cases second with
      | nan => cases hright
      | infinity negative => cases hright
      | negativeZero =>
          cases hright
          refine ⟨0, rfl, ?_⟩
          rw [add_zero, sub_zero, abs_zero]
          exact roundingError_pos.le
      | finite number =>
          cases hright
          exact hround
  | finite number =>
      cases hleft
      cases second with
      | nan => cases hright
      | infinity negative => cases hright
      | negativeZero =>
          cases hright
          exact hround
      | finite other =>
          cases hright
          exact hround

theorem Bounded.add (hfirst : Bounded first limit) (hsecond : Bounded second bound)
    (hlimit : limit + bound ≤ 2 ^ 20) :
    Bounded (add .double first second) (limit + bound + roundingError) := by
  obtain ⟨left, hleft, hleftLimit⟩ := hfirst
  obtain ⟨right, hright, hrightLimit⟩ := hsecond
  have htriangle : |left + right| ≤ limit + bound :=
    (abs_add_le left right).trans (add_le_add hleftLimit hrightLimit)
  obtain ⟨sum, hsum, herror⟩ := exists_value?_add hleft hright (htriangle.trans hlimit)
  have hdistance := abs_sub_abs_le_abs_sub sum (left + right)
  exact ⟨sum, hsum, by linarith⟩

theorem Bounded.sub (hfirst : Bounded first limit) (hsecond : Bounded second bound)
    (hlimit : limit + bound ≤ 2 ^ 20) :
    Bounded (sub .double first second) (limit + bound + roundingError) :=
  hfirst.add hsecond.neg hlimit

theorem Bounded.div (hfirst : Bounded first limit) {least most : ℚ}
    (hsecond : Between second least most) (hleast : 0 < least) (hlimit : limit / least ≤ 2 ^ 20) :
    Bounded (div .double first second) (limit / least + roundingError) := by
  obtain ⟨left, hleft, hleftLimit⟩ := hfirst
  obtain ⟨right, rfl, -, hbelow, -⟩ := hsecond
  have hpositive : 0 < right := hleast.trans_le hbelow
  have hquotient : |left / right| ≤ limit / least := by
    rw [abs_div, abs_of_pos hpositive]
    have hnonneg : 0 ≤ limit := (abs_nonneg left).trans hleftLimit
    gcongr
  have hdiv : div .double first (finite right) =
      ofRat .double (first.isNegative != isNegative (finite right)) (left / right) := by
    simp only [Binary.div, hleft, value?_finite, if_neg hpositive.ne']
  obtain ⟨rounded, hrounded, herror⟩ := exists_value?_ofRat (hquotient.trans hlimit)
    (first.isNegative != isNegative (finite right))
  have hdistance := abs_sub_abs_le_abs_sub rounded (left / right)
  exact ⟨rounded, by rw [hdiv, hrounded], by linarith⟩

end

/-! ## Remainders -/

/-- What is left of a value beyond its integer part is less than one, in magnitude. -/
theorem abs_sub_truncate_lt (value : ℚ) : |value - truncate value| < 1 := by
  unfold truncate
  rw [abs_lt]
  split
  · have hceil : value ≤ value.ceil := Rat.le_ceil
    have hnext : (value.ceil : ℚ) < value + 1 := Rat.ceil_lt
    constructor <;> linarith
  · have hfloor : (value.floor : ℚ) ≤ value := Rat.floor_le value
    have hnext : value - 1 < value.floor := Rat.lt_floor
    constructor <;> linarith

/-- The remainder of a value by a positive divisor lies between zero and the divisor, both
included, and carries no minus sign. -/
theorem between_modulo {number : Binary} {value divisor : ℚ} (hvalue : number.value? = some value)
    (hdivisor : 0 < divisor) (hlimit : divisor ≤ 2 ^ 20) :
    Between (modulo .double number (finite divisor)) 0 (divisor + roundingError) := by
  have herror := roundingError_pos
  have hpart : |value - truncate (value / divisor) * divisor| < divisor := by
    have hscale : value - truncate (value / divisor) * divisor =
        (value / divisor - truncate (value / divisor)) * divisor := by
      field_simp
    rw [hscale, abs_mul, abs_of_pos hdivisor]
    exact mul_lt_of_lt_one_left hdivisor (abs_sub_truncate_lt _)
  rw [abs_lt] at hpart
  unfold modulo
  simp only [hvalue, value?_finite, if_neg hdivisor.ne', isNegative_finite hdivisor.le]
  split
  · exact ⟨0, rfl, le_refl _, le_refl _, by linarith⟩
  · rename_i hremainder
    split
    · rename_i hsame
      have hpositive : 0 ≤ value - truncate (value / divisor) * divisor := by
        rw [eq_iff_iff, iff_false_right (not_lt.2 hdivisor.le)] at hsame
        exact not_lt.1 hsame
      obtain ⟨rounded, hrounded, hlow, -, hhigh⟩ :=
        between_ofRat hpositive (le_refl _) hpart.2.le hlimit
      exact ⟨rounded, hrounded, hlow, hlow, hhigh⟩
    · -- a remainder of the other sign is moved by one divisor
      rename_i hsame
      have hnegative : value - truncate (value / divisor) * divisor < 0 := by
        by_contra hpositive
        exact hsame (by simp [hpositive, hdivisor.le])
      have hmoved : 0 ≤ value - truncate (value / divisor) * divisor + divisor := by linarith
      obtain ⟨rounded, hrounded, hlow, -, hhigh⟩ :=
        between_ofRat hmoved (le_refl _) (by linarith : _ ≤ divisor) hlimit
      exact ⟨rounded, hrounded, hlow, hlow, hhigh⟩

end Palette.Binary
