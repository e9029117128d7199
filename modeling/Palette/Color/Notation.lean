import Palette.Color.Name
import Palette.Color.Space
import Palette.Text.Blank
import Palette.Text.HexDigit
import Palette.Text.Parts
import Palette.Text.Quoted
import Palette.Value.Shown

/-!
# Color notation

A color is written as hexadecimal digits, as a name, or as a function with three
components and an optional alpha.  Reading goes in three steps, each a function
of its own:

* `Notation.ofText` recognises the outer form;
* `Arguments.ofBody` splits a function's body at commas, or at blanks with the
  alpha after a slash;
* `Notation.toColor` reads the components.

At most one line feed is tolerated after the outer form and after a percentage's
number.  Hexadecimal digits followed by one reach a reader of digit pairs that
refuses a blank pair, which is the one fault that is not a fault of the notation
(`ColorFault.blankDigits`).
-/

namespace Palette

open Palette.Text

/-- Why a text is not a color. -/
inductive ColorFault where
  /-- No outer form fits; holds the quoted text or the shown value. -/
  | unreadable (shown : String)
  | unknownName (name : String)
  /-- Commas and a slash in one body. -/
  | mixedArguments (text : String)
  /-- Not three components, or an empty one. -/
  | wrongArguments (text : String)
  | badNumber (token : String)
  | badPercentage (token : String)
  | badHue (token : String)
  /-- A pair of hexadecimal digits that is blank. -/
  | blankDigits (pair : String)
  deriving DecidableEq, Repr

/-- Whether a fault is one of the notation, which leaves the color out with a
warning. -/
def ColorFault.isOfNotation : ColorFault → Bool
  | .blankDigits _ => false
  | _ => true

/-- The message of a fault. -/
def ColorFault.message : ColorFault → String
  | .unreadable shown => "Unable to parse color from " ++ shown
  | .unknownName name => "Unknown color name " ++ quoted name
  | .mixedArguments text => "Mixed argument syntax in " ++ quoted text
  | .wrongArguments text => "Expected three color components in " ++ quoted text
  | .badNumber token => "Invalid number " ++ quoted token
  | .badPercentage token => "Expected a percentage, got " ++ quoted token
  | .badHue token => "Invalid hue " ++ quoted token
  | .blankDigits pair => "invalid literal for int() with base 16: " ++ quoted pair

namespace Color

/-! ## The outer form -/

/-- The color space that a function's name stands for. -/
inductive Space where
  | rgb
  | hsl
  | hwb
  deriving DecidableEq, Repr

/-- The color space of a function's name, in any ASCII letter case.  A long s also
passes for the letter s; a name spelled with it has no color space of its own and
is read like `hwb`. -/
def Space.ofName? (name : List Char) : Option Space :=
  match String.ofList (name.map Char.toLower) with
  | "rgb" => some .rgb
  | "rgba" => some .rgb
  | "hsl" => some .hsl
  | "hsla" => some .hsl
  | "hwb" => some .hwb
  | "h\u017Fl" => some .hwb
  | "h\u017Fla" => some .hwb
  | _ => none

/-- The outer form of a color: hexadecimal digits with what follows them, a name,
or a function with its trimmed body. -/
inductive Notation where
  | digits (digits : List Char)
  | name (name : List Char)
  | function (space : Space) (body : List Char)
  deriving DecidableEq, Repr

/-- The text without one line feed at its end. -/
def dropFinalLineFeed (characters : List Char) : List Char :=
  if characters.getLast? = some '\n' then characters.dropLast else characters

/-- Whether so many hexadecimal digits make a color. -/
def isDigitCount (count : Nat) : Bool :=
  count == 3 || count == 4 || count == 6 || count == 8

/-- The function that a text spells as a whole: a name, and a body without further
parentheses between two parentheses. -/
def functionOf? (characters : List Char) : Option Notation :=
  let name := characters.takeWhile (· != '(')
  match characters.dropWhile (· != '(') with
  | [] => none
  | _ :: inside =>
    let body := inside.takeWhile fun character => character != '(' && character != ')'
    if inside.drop body.length = [')'] then
      (Space.ofName? name).map fun space => .function space (trim body)
    else none

/-- The outer form of a text. -/
def Notation.ofText (text : String) : Except ColorFault Notation :=
  let characters := text.toList
  let content := dropFinalLineFeed characters
  let other := (functionOf? content).elim (Except.error (.unreadable (quoted text))) Except.ok
  match content with
  | [] => other
  | first :: others =>
    if first = '#' then
      if others.all isHexDigit && isDigitCount others.length then .ok (.digits (characters.drop 1))
      else other
    else if content.all Char.isAlpha then .ok (.name characters)
    else other

/-! ## Hexadecimal digits -/

/-- The value of a pair of hexadecimal digits.  A line feed in the pair's second
place is passed over. -/
def pairValue (pair : List Char) : Except ColorFault Nat :=
  match pair.filter (· != '\n') with
  | [] => .error (.blankDigits (String.ofList pair))
  | digits => .ok (hexValue digits)

/-- The color of hexadecimal digits: pairs for red, green, blue and alpha, where
three or four characters are doubled first. -/
def ofDigits (digits : List Char) : Except ColorFault Color := do
  let digits :=
    if digits.length = 3 ∨ digits.length = 4 then digits.flatMap fun digit => [digit, digit]
    else digits
  let red ← pairValue (digits.take 2)
  let green ← pairValue ((digits.drop 2).take 2)
  let blue ← pairValue ((digits.drop 4).take 2)
  let alpha ← if digits.length = 8 then pairValue ((digits.drop 6).take 2) else pure 255
  return ⟨.ofNat red, .ofNat green, .ofNat blue, .ofNat alpha⟩

/-! ## Arguments -/

/-- The three components of a color function and its alpha. -/
structure Arguments where
  first : List Char
  second : List Char
  third : List Char
  alpha : Option (List Char)
  deriving DecidableEq, Repr

/-- The arguments made of three components that are not empty and an alpha that is
not empty. -/
def Arguments.ofParts? (parts : List (List Char)) (alpha : Option (List Char)) :
    Option Arguments :=
  match parts with
  | [first, second, third] =>
    if first = [] ∨ second = [] ∨ third = [] ∨ alpha = some [] then none
    else some ⟨first, second, third, alpha⟩
  | _ => none

/-- The arguments in a body without a slash: trimmed parts between commas, the
fourth of which is the alpha. -/
def Arguments.ofCommas? (body : List Char) : Option Arguments :=
  match (parts ',' body).map trim with
  | [first, second, third, alpha] => ofParts? [first, second, third] (some alpha)
  | parts => ofParts? parts none

/-- The arguments in a body without commas: words, and an alpha after the first
slash. -/
def Arguments.ofWords? (body : List Char) : Option Arguments :=
  match body.dropWhile (· != '/') with
  | [] => ofParts? (words body) none
  | _ :: alpha => ofParts? (words (body.takeWhile (· != '/'))) (some (trim alpha))

/-- The arguments of a function's body; `text` is the whole color, for messages. -/
def Arguments.ofBody (text : String) (body : List Char) : Except ColorFault Arguments :=
  let found (arguments : Option Arguments) : Except ColorFault Arguments :=
    arguments.elim (.error (.wrongArguments text)) .ok
  if ',' ∈ body then
    if '/' ∈ body then .error (.mixedArguments text) else found (ofCommas? body)
  else found (ofWords? body)

/-! ## Components -/

/-- The number that a token spells. -/
def readNumber (token : List Char) : Except ColorFault Binary :=
  match Decimal.ofText? (dropFinalLineFeed token) with
  | some decimal => .ok (decimal.toBinary .double)
  | none => .error (.badNumber (String.ofList token))

/-- Whether a token ends with a percent sign. -/
def isPercentage (token : List Char) : Bool :=
  token.getLast? == some '%'

/-- The percentage that a token spells, between 0 and 100. -/
def readPercentage (token : List Char) : Except ColorFault Binary :=
  if isPercentage token then
    (readNumber token.dropLast).map (Binary.clamp (.finite 0) (.finite 100))
  else .error (.badPercentage (String.ofList token))

/-- The token without a unit of degrees, in any letter case. -/
def dropDegrees (token : List Char) : List Char :=
  let number := token.take (token.length - 3)
  if (token.drop (token.length - 3)).map Char.toLower = ['d', 'e', 'g'] then number else token

/-- The hue that a token spells, in degrees within one turn. -/
def readHue (token : List Char) : Except ColorFault Binary :=
  match Decimal.ofText? (dropDegrees token) with
  | some decimal => .ok (Binary.modulo .double (decimal.toBinary .double) (.finite 360))
  | none => .error (.badHue (String.ofList token))

/-- The alpha that a token spells, between 0 and 1, and 1 without a token. -/
def readAlpha : Option (List Char) → Except ColorFault Binary
  | none => .ok (.finite 1)
  | some token =>
    if isPercentage token then
      (readPercentage token).map fun percentage => Binary.div .double percentage (.finite 100)
    else (readNumber token).map (Binary.clamp (.finite 0) (.finite 1))

/-- How much of a channel one percent is. -/
def channelPerPercent : Binary := Decimal.double 255 (-2)

/-- The channel that a number or a percentage spells. -/
def readChannel (token : List Char) : Except ColorFault Channel :=
  if isPercentage token then
    (readPercentage token).map fun percentage =>
      .ofInt (Binary.round (Binary.mul .double percentage channelPerPercent))
  else
    (readNumber token).map fun number =>
      .ofInt (Binary.round (Binary.clamp (.finite 0) (.finite 255) number))

/-- The hue, saturation and lightness that three components spell. -/
def readHsl (arguments : Arguments) : Except ColorFault Hsl := do
  let hue ← readHue arguments.first
  let saturation ← readPercentage arguments.second
  let lightness ← readPercentage arguments.third
  return ⟨hue, saturation, lightness⟩

/-- A percentage as a share of one. -/
def shareOfPercentage (percentage : Binary) : Binary :=
  Binary.div .double percentage (.finite 100)

/-- The color that a function's arguments give in its color space. -/
def ofArguments (space : Space) (arguments : Arguments) : Except ColorFault Color := do
  match space with
  | .rgb =>
    let red ← readChannel arguments.first
    let green ← readChannel arguments.second
    let blue ← readChannel arguments.third
    let alpha ← readAlpha arguments.alpha
    return ⟨red, green, blue, .ofInt (Binary.round (Binary.mul .double alpha (.finite 255)))⟩
  | .hsl =>
    let hsl ← readHsl arguments
    let alpha ← readAlpha arguments.alpha
    let turn := Binary.div .double hsl.hue (.finite 360)
    return (wideOfHsl turn (shareOfPercentage hsl.saturation) (shareOfPercentage hsl.lightness)
      alpha).toColor
  | .hwb =>
    let hwb ← readHsl arguments
    let alpha ← readAlpha arguments.alpha
    return (wideOfHwb hwb.hue (shareOfPercentage hwb.saturation) (shareOfPercentage hwb.lightness)
      alpha).toColor

/-- The color of an outer form. -/
def Notation.toColor (text : String) : Notation → Except ColorFault Color
  | .digits marks => ofDigits marks
  | .name keyword =>
    (ofName? keyword).elim (.error (.unknownName (String.ofList keyword))) .ok
  | .function space body => do
    let arguments ← Arguments.ofBody text body
    ofArguments space arguments

/-- The color that a text spells. -/
def ofText (text : String) : Except ColorFault Color := do
  let form ← Notation.ofText text
  form.toColor text

/-- The color that a value spells; only a text can. -/
def ofValue : Value → Except ColorFault Color
  | .text text => ofText text
  | other => .error (.unreadable other.shown)

end Color

end Palette
