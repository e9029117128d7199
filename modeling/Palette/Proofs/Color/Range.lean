import Palette.Color.Encoding
import Palette.Proofs.Binary.Interval

/-!
# The range of hue, saturation and lightness

A color's hue, saturation and lightness are computed from its channels by rounded
operations, which may leave the range of the exact results.  They leave it by so little
that it does not show at two places (`Hsl.InRange`, `inRange_toHsl`), and they never
carry a minus sign.

The quotients are what needs care.  Their divisors are the range of the channels, their
sum, or what the sum lacks to two; as two channels differ by one step at least, none of
these is below `1 / 256`.
-/

namespace Palette.Color

open Binary

/-- How far a component may leave its range without showing it at two places. -/
def margin : ℚ := 1 / 400

/-- Hue, saturation and lightness are finite, without a minus sign, and in their ranges up
to the margin. -/
structure Hsl.InRange (hsl : Hsl) : Prop where
  hue : Between hsl.hue 0 (360 + margin)
  saturation : Between hsl.saturation 0 (100 + margin)
  lightness : Between hsl.lightness 0 (100 + margin)

/-- A channel as a share of one. -/
def share (level : ℕ) : Binary :=
  div .double (ofInt .double level) (.finite 255)

theorem between_share {level : ℕ} (hlevel : level ≤ 255) :
    Between (share level) (level / 255 - 2 * roundingError) (level / 255 + 2 * roundingError) := by
  have hcast : (level : ℚ) ≤ 255 := by exact_mod_cast hlevel
  have hnumber : Between (ofInt .double level) (level - roundingError) (level + roundingError) := by
    unfold ofInt
    rw [Int.cast_natCast]
    exact between_ofRat (Nat.cast_nonneg level) (le_refl _) (le_refl _) (by linarith)
  unfold share
  refine (hnumber.div (between_finite (by norm_num : (0 : ℚ) ≤ 255)) (by norm_num) ?_).mono ?_ ?_
  all_goals
    unfold roundingError
    linarith

theorem between_share_coarse {level : ℕ} (hlevel : level ≤ 255) : Between (share level) 0 2 := by
  have hcast : (level : ℚ) ≤ 255 := by exact_mod_cast hlevel
  refine (between_share hlevel).nonneg.mono (le_refl _) ?_
  unfold roundingError
  linarith

/-! ## A color that is no gray -/

section

variable {low high : ℕ}

theorem between_sum (horder : low ≤ high) (hhigh : high ≤ 255) :
    Between (add .double (share high) (share low))
      ((high + low : ℚ) / 255 - 5 * roundingError) ((high + low : ℚ) / 255 + 5 * roundingError) := by
  have hcast : (high : ℚ) ≤ 255 := by exact_mod_cast hhigh
  have hlow : (low : ℚ) ≤ high := by exact_mod_cast horder
  refine ((between_share hhigh).add (between_share (horder.trans hhigh)) ?_).mono ?_ ?_
  all_goals
    unfold roundingError
    linarith

theorem between_range (horder : low < high) (hhigh : high ≤ 255) :
    Between (sub .double (share high) (share low))
      ((high - low : ℚ) / 255 - 5 * roundingError) ((high - low : ℚ) / 255 + 5 * roundingError) := by
  have hcast : (high : ℚ) ≤ 255 := by exact_mod_cast hhigh
  have hlow : (low : ℚ) + 1 ≤ high := by exact_mod_cast horder
  have hnonneg : (0 : ℚ) ≤ low := Nat.cast_nonneg low
  refine ((between_share hhigh).sub (between_share (horder.le.trans hhigh)) ?_ ?_).mono ?_ ?_
  all_goals
    unfold roundingError
    linarith

/-- The range of two different channels is not below this. -/
theorem between_range_coarse (horder : low < high) (hhigh : high ≤ 255) :
    Between (sub .double (share high) (share low)) (1 / 256) 2 := by
  have hcast : (high : ℚ) ≤ 255 := by exact_mod_cast hhigh
  have hlow : (low : ℚ) + 1 ≤ high := by exact_mod_cast horder
  have hnonneg : (0 : ℚ) ≤ low := Nat.cast_nonneg low
  refine (between_range horder hhigh).mono ?_ ?_
  all_goals
    unfold roundingError
    linarith

/-- A quotient whose dividend is not above its divisor exceeds one by a little at most,
provided the divisor is not small. -/
theorem between_quotient {number divisor : Binary} {value bound : ℚ} (horder : value ≤ bound)
    (hbound : 1 / 255 ≤ bound)
    (hnumber : Between number (value - 5 * roundingError) (value + 5 * roundingError))
    (hdivisor : Between divisor (bound - 6 * roundingError) (bound + 6 * roundingError)) :
    Between (div .double number divisor) 0 (1 + 1 / 2 ^ 19) := by
  have hpositive : 0 < bound - 6 * roundingError := by
    unfold roundingError
    linarith
  have hquotient : (value + 5 * roundingError) / (bound - 6 * roundingError) ≤ 1 + 1 / 2 ^ 20 := by
    rw [div_le_iff₀ hpositive]
    unfold roundingError
    linarith
  have hdiv := hnumber.div hdivisor hpositive (hquotient.trans (by norm_num))
  refine hdiv.nonneg.mono (le_refl _) ?_
  unfold roundingError at hquotient ⊢
  linarith

/-- The saturation of a color that is no gray, as a share of one. -/
theorem between_saturation (horder : low < high) (hhigh : high ≤ 255) (isLight : Bool) :
    Between
      (if isLight then
        div .double (sub .double (share high) (share low))
          (sub .double (.finite 2) (add .double (share high) (share low)))
      else
        div .double (sub .double (share high) (share low))
          (add .double (share high) (share low)))
      0 (1 + 1 / 2 ^ 19) := by
  have hcast : (high : ℚ) ≤ 255 := by exact_mod_cast hhigh
  have hlow : (low : ℚ) + 1 ≤ high := by exact_mod_cast horder
  have hnonneg : (0 : ℚ) ≤ low := Nat.cast_nonneg low
  have herror := roundingError_pos
  have hrange := between_range horder hhigh
  have hsum := between_sum horder.le hhigh
  cases isLight with
  | true =>
      have hrest : Between (sub .double (.finite 2) (add .double (share high) (share low)))
          (2 - (high + low : ℚ) / 255 - 6 * roundingError)
          (2 - (high + low : ℚ) / 255 + 6 * roundingError) := by
        refine ((between_finite (by norm_num : (0 : ℚ) ≤ 2)).sub hsum ?_ ?_).mono ?_ ?_
        all_goals
          unfold roundingError
          linarith
      exact between_quotient (by linarith) (by linarith) hrange hrest
  | false =>
      refine between_quotient (by linarith) (by linarith) hrange
        (hsum.mono ?_ ?_ : Between _ ((high + low : ℚ) / 255 - _) ((high + low : ℚ) / 255 + _))
      all_goals linarith

/-- How far a channel lies from the highest one, measured by the range. -/
theorem bounded_distance {highest channel range : Binary} (hhighest : Between highest 0 2)
    (hchannel : Between channel 0 2) (hrange : Between range (1 / 256) 2) :
    Bounded (div .double (sub .double highest channel) range) 2000 := by
  have hdifference := hhighest.bounded.sub hchannel.bounded (by norm_num)
  refine (hdifference.div hrange (by norm_num) ?_).mono ?_
  all_goals
    unfold roundingError
    norm_num

theorem bounded_hueSixths {red green blue highest range : Binary} (hred : Between red 0 2)
    (hgreen : Between green 0 2) (hblue : Between blue 0 2) (hhighest : Between highest 0 2)
    (hrange : Between range (1 / 256) 2) :
    Bounded (hueSixths red green blue highest range) 5000 := by
  have hdistance {channel : Binary} (hchannel : Between channel 0 2) :=
    bounded_distance hhighest hchannel hrange
  have htwo : Bounded (.finite 2) 2 := (between_finite (by norm_num)).bounded
  have hfour : Bounded (.finite 4) 4 := (between_finite (by norm_num)).bounded
  have herror : roundingError ≤ 1 := by
    unfold roundingError
    norm_num
  unfold hueSixths
  simp only
  split
  · exact ((hdistance hblue).sub (hdistance hgreen) (by norm_num)).mono (by linarith)
  · split
    · have hshifted := htwo.add (hdistance hred) (by norm_num)
      exact (hshifted.sub (hdistance hblue) (by linarith)).mono (by linarith)
    · have hshifted := hfour.add (hdistance hgreen) (by norm_num)
      exact (hshifted.sub (hdistance hred) (by linarith)).mono (by linarith)

end

/-! ## Every color -/

/-- The hue of a position on the wheel, which is brought into one turn first. -/
theorem between_hue {sixths : Binary} (hsixths : Bounded sixths 5000) :
    Between (mul .double (modulo .double (div .double sixths (.finite 6)) (.finite 1))
      (.finite 360)) 0 (360 + margin) := by
  obtain ⟨turns, hturns, -⟩ :=
    hsixths.div (between_finite (by norm_num : (0 : ℚ) ≤ 6)) (by norm_num) (by norm_num)
  have hturn := between_modulo hturns one_pos (by norm_num)
  have hdegrees := hturn.mul (between_finite (by norm_num : (0 : ℚ) ≤ 360)) (by norm_num)
    (by unfold roundingError; norm_num)
  refine hdegrees.nonneg.mono (le_refl _) ?_
  unfold roundingError margin
  norm_num

/-- A share of one in percent. -/
theorem between_percent {number : Binary} (hnumber : Between number 0 (1 + 1 / 2 ^ 19)) :
    Between (mul .double number (.finite 100)) 0 (100 + margin) := by
  have hpercent := hnumber.mul (between_finite (by norm_num : (0 : ℚ) ≤ 100)) (by norm_num)
    (by norm_num)
  refine hpercent.nonneg.mono (le_refl _) ?_
  unfold roundingError margin
  norm_num

/-- Every color has its hue, saturation and lightness in range. -/
theorem inRange_toHsl (color : Color) : color.toHsl.InRange := by
  have hred : color.red.val ≤ 255 := Nat.le_of_lt_succ color.red.isLt
  have hgreen : color.green.val ≤ 255 := Nat.le_of_lt_succ color.green.isLt
  have hblue : color.blue.val ≤ 255 := Nat.le_of_lt_succ color.blue.isLt
  obtain ⟨high, hhigh⟩ : ∃ high, high = max color.red.val (max color.green.val color.blue.val) :=
    ⟨_, rfl⟩
  obtain ⟨low, hlow⟩ : ∃ low, low = min color.red.val (min color.green.val color.blue.val) :=
    ⟨_, rfl⟩
  have hlimit : high ≤ 255 := by omega
  have horder : low ≤ high := by omega
  have hlightness : Between
      (mul .double (div .double (add .double (share high) (share low)) (.finite 2)) (.finite 100))
      0 (100 + margin) := by
    have hcast : (high : ℚ) ≤ 255 := by exact_mod_cast hlimit
    have hbelow : (low : ℚ) ≤ high := by exact_mod_cast horder
    have hhalf := (between_sum horder hlimit).div
      (between_finite (by norm_num : (0 : ℚ) ≤ 2)) (by norm_num) (by unfold roundingError; linarith)
    refine between_percent (hhalf.nonneg.mono (le_refl _) ?_)
    unfold roundingError
    linarith
  unfold toHsl
  simp only [← hhigh, ← hlow]
  split
  · exact ⟨(between_finite (le_refl 0)).mono (le_refl _) (by unfold margin; norm_num),
      (between_finite (le_refl 0)).mono (le_refl _) (by unfold margin; norm_num), hlightness⟩
  · rename_i hgray
    -- equal channels have equal shares, so the range is no zero here
    have hdiffer : low < high := by
      refine lt_of_le_of_ne horder fun heq => hgray ?_
      obtain ⟨value, hvalue, -⟩ := between_share hlimit
      unfold share at hvalue
      rw [heq, hvalue]
      exact beq_self_eq_true value
    have hrange := between_range_coarse hdiffer hlimit
    exact ⟨between_hue (bounded_hueSixths (between_share_coarse hred)
        (between_share_coarse hgreen) (between_share_coarse hblue) (between_share_coarse hlimit)
        hrange),
      between_percent (between_saturation hdiffer hlimit _), hlightness⟩

end Palette.Color
