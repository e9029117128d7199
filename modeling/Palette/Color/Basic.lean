/-!
# Colors

A color is four channels of eight bits.  Conversions that work with sixteen bits
per channel end in `Channel.ofWide`, which rounds.
-/

namespace Palette

/-- A channel of a color, from 0 to 255. -/
abbrev Channel := Fin 256

namespace Channel

/-- The channel nearest to a natural number. -/
def ofNat (value : Nat) : Channel :=
  ⟨min value 255, by omega⟩

/-- The channel nearest to an integer. -/
def ofInt (value : Int) : Channel :=
  ofNat value.toNat

/-- The channel nearest to a value of sixteen bits, of which 257 steps make one. -/
def ofWide (wide : Nat) : Channel :=
  let raised := wide + 128
  ofNat ((raised - raised / 256) / 256)

/-- The two hexadecimal digits of a channel, in lower case. -/
def hexDigits (channel : Channel) : List Char :=
  [Nat.digitChar (channel.val / 16), Nat.digitChar (channel.val % 16)]

@[simp] theorem ofNat_val (channel : Channel) : ofNat channel.val = channel := by
  apply Fin.ext
  simp only [ofNat]
  omega

theorem ofNat_eq_max {value : Nat} (hvalue : 255 ≤ value) : (ofNat value).val = 255 := by
  simp only [ofNat]
  omega

/-- Widening a channel by its 257 steps and rounding back changes nothing. -/
theorem ofWide_widened (channel : Channel) : ofWide (channel.val * 257) = channel := by
  apply Fin.ext
  have hbound := channel.isLt
  simp only [ofWide, ofNat]
  omega

end Channel

/-- A color with an opacity, `alpha`. -/
structure Color where
  red : Channel
  green : Channel
  blue : Channel
  alpha : Channel
  deriving DecidableEq, Repr

end Palette
