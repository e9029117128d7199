import Palette.Binary.Decimal

/-!
# The texts of a number

Two texts of a number of 64 bits:

* `Binary.text` shows the fewest digits that read back to the same number, and
  among those the nearest; positional for magnitudes from `10 ^ -4` up to
  `10 ^ 16`, and otherwise with an exponent of at least two digits;
* `Binary.hundredths` shows the exact value rounded to two places, a half going
  to the even neighbour.  The minus sign of a zero is kept by both.
-/

namespace Palette.Binary

/-- The digits of a natural number. -/
def digitsOf (value : Nat) : List Char :=
  Nat.toDigits 10 value

/-! ## The fewest digits -/

/-- The exponent of the least power of ten above a positive value, searched
upward from an estimate that is not too large. -/
def magnitudeFrom (value : Rat) : Nat → Int → Int
  | 0, estimate => estimate
  | fuel + 1, estimate =>
    if value < (10 : Rat) ^ estimate then estimate else magnitudeFrom value fuel (estimate + 1)

/-- The exponent of the least power of ten above a positive value. -/
def magnitude (value : Rat) : Int :=
  magnitudeFrom value 4 ((floorLog2 value * 30103) / 100000)

/-- Of the two multiples of `10 ^ exponent` around a positive value, the one that
reads back to it; the nearer if both do, and the even one if they are equally
near. -/
def readBackAt? (value : Rat) (exponent : Int) : Option Decimal :=
  let grid := (10 : Rat) ^ exponent
  let below := (value / grid).floor.toNat
  let readsBack (digits : Nat) : Bool :=
    Decimal.toBinary .double ⟨false, digits, exponent⟩ = .finite value
  let twice := 2 * (value / grid)
  let middle : Rat := 2 * below + 1
  match readsBack below, readsBack (below + 1) with
  | true, true =>
    if twice < middle ∨ (twice = middle ∧ below % 2 = 0) then some ⟨false, below, exponent⟩
    else some ⟨false, below + 1, exponent⟩
  | true, false => some ⟨false, below, exponent⟩
  | false, true => some ⟨false, below + 1, exponent⟩
  | false, false => none

/-- A numeral with the fewest digits that reads back to a positive value. -/
def shortest (value : Rat) : Decimal :=
  let top := magnitude value
  let grids := (List.range 17).map fun (count : Nat) => top - 1 - (count : Int)
  (grids.findSome? (readBackAt? value)).getD
    ⟨false, (value / (10 : Rat) ^ (top - 17)).floor.toNat, top - 17⟩

/-- The digits without the zeros at their end, and how many those are. -/
def dropEndZeros (digits : List Char) : List Char × Nat :=
  let kept := (digits.reverse.dropWhile (· == '0')).reverse
  (kept, digits.length - kept.length)

/-- A numeral laid out: positional while its first digit stands for `10 ^ -4` up
to `10 ^ 15`, and otherwise with one digit before the point and an exponent. -/
def layout (decimal : Decimal) : List Char :=
  let (digits, dropped) := dropEndZeros (digitsOf decimal.digits)
  let point : Int := decimal.exponent + dropped + digits.length
  if -4 < point ∧ point ≤ 16 then
    if point ≤ 0 then '0' :: '.' :: (List.replicate (-point).toNat '0' ++ digits)
    else if (digits.length : Int) ≤ point then
      digits ++ List.replicate (point - digits.length).toNat '0' ++ ['.', '0']
    else digits.take point.toNat ++ '.' :: digits.drop point.toNat
  else
    let exponent := point - 1
    let shown := digitsOf exponent.natAbs
    let fraction := digits.drop 1
    digits.take 1 ++ (if fraction = [] then [] else '.' :: fraction) ++
      ['e', if exponent < 0 then '-' else '+'] ++
      List.replicate (2 - shown.length) '0' ++ shown

/-- The text with the fewest digits that read back to the number. -/
def text : Binary → String
  | nan => "nan"
  | infinity negative => if negative then "-inf" else "inf"
  | negativeZero => "-0.0"
  | finite value =>
    if value = 0 then "0.0"
    else
      let shown := layout (shortest value.abs)
      String.ofList (if value < 0 then '-' :: shown else shown)

/-! ## Two places -/

/-- A count of hundredths, shown with two places. -/
def hundredthsText (count : Nat) : List Char :=
  digitsOf (count / 100) ++ ['.'] ++ digitsOf (count / 10 % 10) ++ digitsOf (count % 10)

/-- The text with two places, rounded from the exact value. -/
def hundredths : Binary → String
  | nan => "nan"
  | infinity negative => if negative then "-inf" else "inf"
  | negativeZero => "-0.00"
  | finite value =>
    let shown := hundredthsText (roundHalfEven (value * 100)).natAbs
    String.ofList (if value < 0 then '-' :: shown else shown)

end Palette.Binary
