import Palette.Color.Notation

/-!
# Color encodings

How a color is written as the value of a custom property: as hexadecimal digits,
as red, green and blue, or as hue, saturation and lightness.  A color that was
itself written as hue, saturation and lightness keeps these components in the
last encoding, however its channels were rounded.
-/

namespace Palette

/-- The way in which a color is written. -/
inductive Encoding where
  | hex
  | hsl
  | rgb
  deriving DecidableEq, Repr

/-- The encoding of a name; an unknown name stands for hexadecimal digits. -/
def Encoding.ofName (name : String) : Encoding :=
  if name = "hsl" then .hsl
  else if name = "rgb" then .rgb
  else .hex

namespace Color

/-- Hue, saturation and lightness with two places each. -/
def Hsl.text (hsl : Hsl) : String :=
  hsl.hue.hundredths ++ " " ++ hsl.saturation.hundredths ++ "% " ++ hsl.lightness.hundredths ++ "%"

/-- A channel as a decimal number. -/
def channelText (channel : Channel) : String :=
  toString channel.val

/-- The color in an encoding; alpha is not written. -/
def encode (color : Color) : Encoding → String
  | .hex =>
    String.ofList
      ('#' :: color.red.hexDigits ++ color.green.hexDigits ++ color.blue.hexDigits)
  | .rgb =>
    channelText color.red ++ ", " ++ channelText color.green ++ ", " ++ channelText color.blue
  | .hsl => color.toHsl.text

/-- The components of a text that is written as hue, saturation and lightness. -/
def ownHsl? (text : String) : Except ColorFault (Option Hsl) :=
  match Notation.ofText text with
  | .ok (.function .hsl body) => do
    let arguments ← Arguments.ofBody text body
    let hsl ← readHsl arguments
    return some hsl
  | _ => .ok none

/-- The text of a color, read and written again in an encoding. -/
def resolve (text : String) (encoding : Encoding) : Except ColorFault String := do
  let color ← ofText text
  match encoding with
  | .hsl =>
    match ← ownHsl? text with
    | some hsl => return hsl.text
    | none => return color.encode .hsl
  | other => return color.encode other

/-- A value resolved like a text; only a text can be. -/
def resolveValue (value : Value) (encoding : Encoding) : Except ColorFault String :=
  match value with
  | .text text => resolve text encoding
  | other => .error (.unreadable other.shown)

end Color

end Palette
