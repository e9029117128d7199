import Palette.Binary.Basic
import Palette.Text.DecimalDigit

/-!
# Decimal numerals

A numeral is a sign, digits with at most one point among or around them, and an
exponent.  `Decimal.ofText?` reads exactly this form, with the digits of any
script, and `Decimal.toBinary` gives the number nearest to it.

The nearest number of a numeral far outside the range of a precision is known
from the count of its digits alone, so an exponent of any size costs nothing.
-/

namespace Palette

/-- The value `digits * 10 ^ exponent` with a sign, which a zero keeps. -/
structure Decimal where
  negative : Bool
  digits : Nat
  exponent : Int
  deriving DecidableEq, Repr

namespace Decimal

open Palette.Text

/-- The exact value of a numeral. -/
def toRat (decimal : Decimal) : Rat :=
  let magnitude := (decimal.digits : Rat) * (10 : Rat) ^ decimal.exponent
  if decimal.negative then -magnitude else magnitude

/-- The number of this precision nearest to the numeral. -/
def toBinary (precision : Precision) (decimal : Decimal) : Binary :=
  let size : Int := decimal.digits.log2
  if decimal.digits = 0 then .zero decimal.negative
  else if decimal.exponent + size / 4 > 400 then .infinity decimal.negative
  else if decimal.exponent + size / 3 + 1 < -400 then .zero decimal.negative
  else .ofRat precision decimal.negative decimal.toRat

/-! ## Reading -/

/-- The greatest count of digits that an integer may have. -/
def digitLimit : Nat := 4300

/-- The value of a row of digits. -/
def digitsValue (characters : List Char) : Nat :=
  characters.foldl (fun value character => 10 * value + (digitValue? character).getD 0) 0

/-- A sign, if there is one, and what follows it. -/
def takeSign : List Char → Bool × List Char
  | '+' :: rest => (false, rest)
  | '-' :: rest => (true, rest)
  | rest => (false, rest)

/-- The exponent that `rest` spells as a whole: nothing, or a mark, a sign and
digits. -/
def readExponent? : List Char → Option Int
  | [] => some 0
  | mark :: rest =>
    if mark = 'e' ∨ mark = 'E' then
      let (negative, digits) := takeSign rest
      if digits ≠ [] ∧ digits.all isDigit then
        some (if negative then -(digitsValue digits : Int) else digitsValue digits)
      else none
    else none

/-- The numeral that a text without a sign spells as a whole. -/
def readMagnitude? (negative : Bool) (characters : List Char) : Option Decimal :=
  let whole := characters.takeWhile isDigit
  match characters.dropWhile isDigit with
  | '.' :: rest =>
    let fraction := rest.takeWhile isDigit
    if whole = [] ∧ fraction = [] then none
    else
      (readExponent? (rest.dropWhile isDigit)).map fun exponent =>
        ⟨negative, digitsValue (whole ++ fraction), exponent - fraction.length⟩
  | rest =>
    if whole = [] then none
    else (readExponent? rest).map fun exponent => ⟨negative, digitsValue whole, exponent⟩

/-- The numeral that a text spells as a whole. -/
def ofText? (characters : List Char) : Option Decimal :=
  let (negative, magnitude) := takeSign characters
  readMagnitude? negative magnitude

end Decimal

/-- A numeral as a number of 64 bits, for constants. -/
def Decimal.double (digits : Nat) (exponent : Int) : Binary :=
  toBinary .double ⟨false, digits, exponent⟩

end Palette
