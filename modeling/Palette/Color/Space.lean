import Palette.Color.Basic
import Palette.Binary.Decimal

/-!
# Color spaces

How hue, saturation and lightness, or hue, whiteness and blackness, become a
color, and how a color's hue, saturation and lightness are found.

The way into a color runs through sixteen-bit channels in numbers of 32 bits,
every operation rounded; the way out uses numbers of 64 bits on the eight-bit
channels.
-/

namespace Palette.Color

open Binary

/-! ## Sixteen-bit channels -/

/-- The steps of a sixteen-bit channel. -/
def wideSteps : Binary := ofInt .single 65535

/-- A number that is not negative, rounded to an integer with a half upward. -/
def roundUp (number : Binary) : Nat :=
  (truncate ((add .single number (.finite (1 / 2))).value?.getD 0)).toNat

/-- A share between zero and one as a sixteen-bit channel. -/
def wideOfShare (share : Binary) : Nat :=
  roundUp (mul .single (share.toPrecision .single) wideSteps)

/-- A sixteen-bit channel as a share between zero and one. -/
def shareOfWide (wide : Nat) : Binary :=
  div .single (ofInt .single wide) wideSteps

/-- A color with sixteen bits per channel. -/
structure Wide where
  red : Nat
  green : Nat
  blue : Nat
  alpha : Nat
  deriving DecidableEq, Repr

/-- The color with eight bits per channel. -/
def Wide.toColor (wide : Wide) : Color :=
  ⟨.ofWide wide.red, .ofWide wide.green, .ofWide wide.blue, .ofWide wide.alpha⟩

/-! ## Hue, saturation and lightness -/

/-- One channel, from its position on the color wheel and the two levels between
which it moves. -/
def wheelLevel (position first second : Binary) : Binary :=
  let times (factor : Int) := mul .single position (ofInt .single factor)
  let rise := sub .single second first
  let six := times 6
  if lt six (.finite 1) then add .single first (mul .single rise six)
  else if lt (times 2) (.finite 1) then second
  else if lt (times 3) (.finite 2) then
    let left := sub .single (ofRat .single false (2 / 3)) position
    add .single first (mul .single (mul .single rise left) (ofInt .single 6))
  else first

/-- A position on the wheel, brought back between zero and one by one turn. -/
def oneTurn (position : Binary) : Binary :=
  if lt position (.finite 0) then add .single position (.finite 1)
  else if lt (.finite 1) position then sub .single position (.finite 1)
  else position

/-- One channel of sixteen bits.  A result of a single step counts as none. -/
def wheelChannel (position first second : Binary) : Nat :=
  let wide := roundUp (mul .single (wheelLevel (oneTurn position) first second) wideSteps)
  if wide = 1 then 0 else wide

/-- The red, green and blue of a hue in hundredths of a degree and a saturation and
lightness of sixteen bits. -/
def wheelChannels (hue saturation lightness : Nat) : Nat × Nat × Nat :=
  if saturation = 0 then (lightness, lightness, lightness)
  else if lightness = 0 then (0, 0, 0)
  else
    let turn := if hue = 36000 then .finite 0
      else div .single (ofInt .single hue) (ofInt .single 36000)
    let strength := shareOfWide saturation
    let level := shareOfWide lightness
    let second :=
      if lt level (.finite (1 / 2)) then mul .single level (add .single (.finite 1) strength)
      else sub .single (add .single level strength) (mul .single level strength)
    let first := sub .single (mul .single (.finite 2) level) second
    let third := ofRat .single false (1 / 3)
    (wheelChannel (add .single turn third) first second,
      wheelChannel turn first second,
      wheelChannel (sub .single turn third) first second)

/-- The color of a hue, a saturation and a lightness between zero and one.  A hue
that is not a number gives an opaque black. -/
def wideOfHsl (hue saturation lightness alpha : Binary) : Wide :=
  match hue with
  | nan => ⟨0, 0, 0, 65535⟩
  | _ =>
    let turn := hue.toPrecision .single
    let position :=
      if turn = .finite 1 then 0 else roundUp (mul .single turn (ofInt .single 36000))
    let (red, green, blue) :=
      wheelChannels position (wideOfShare saturation) (wideOfShare lightness)
    ⟨red, green, blue, wideOfShare alpha⟩

/-! ## Hue, whiteness and blackness -/

/-- The color of a hue in degrees and a whiteness and blackness between zero and
one.  Whiteness and blackness that fill the whole color leave a gray. -/
def wideOfHwb (hue whiteness blackness alpha : Binary) : Wide :=
  let filled := add .double whiteness blackness
  if lt filled (.finite 1) then
    let pure := wideOfHsl (div .double hue (.finite 360)) (.finite 1) (.finite (1 / 2)) (.finite 1)
    let scale := sub .double (sub .double (.finite 1) whiteness) blackness
    let mixed (wide : Nat) : Nat :=
      wideOfShare (add .double (mul .double (shareOfWide wide) scale) whiteness)
    ⟨mixed pure.red, mixed pure.green, mixed pure.blue, wideOfShare alpha⟩
  else
    let gray := wideOfShare (div .double whiteness filled)
    ⟨gray, gray, gray, wideOfShare alpha⟩

/-! ## From a color -/

/-- Hue in degrees, saturation and lightness in percent. -/
structure Hsl where
  hue : Binary
  saturation : Binary
  lightness : Binary
  deriving DecidableEq, Repr

/-- The hue, in sixths of the wheel before it is brought into one turn, of a color
that is no gray. -/
def hueSixths (red green blue highest range : Binary) : Binary :=
  let distance (channel : Binary) := div .double (sub .double highest channel) range
  if red.eq highest then sub .double (distance blue) (distance green)
  else if green.eq highest then
    sub .double (add .double (.finite 2) (distance red)) (distance blue)
  else sub .double (add .double (.finite 4) (distance green)) (distance red)

/-- The hue, saturation and lightness of a color's red, green and blue. -/
def toHsl (color : Color) : Hsl :=
  let share (level : Nat) := div .double (ofInt .double level) (.finite 255)
  let red := share color.red.val
  let green := share color.green.val
  let blue := share color.blue.val
  let highest := share (max color.red.val (max color.green.val color.blue.val))
  let lowest := share (min color.red.val (min color.green.val color.blue.val))
  let sum := add .double highest lowest
  let range := sub .double highest lowest
  let lightness := div .double sum (.finite 2)
  let percent (number : Binary) := mul .double number (.finite 100)
  if lowest.eq highest then ⟨.finite 0, .finite 0, percent lightness⟩
  else
    let saturation :=
      if lt (.finite (1 / 2)) lightness then div .double range (sub .double (.finite 2) sum)
      else div .double range sum
    let turn := modulo .double (div .double (hueSixths red green blue highest range) (.finite 6))
      (.finite 1)
    ⟨mul .double turn (.finite 360), percent saturation, percent lightness⟩

end Palette.Color
