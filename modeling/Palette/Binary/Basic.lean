/-!
# Numbers of limited precision

A binary number is not a number, an infinity, a zero with a minus sign, or an
exact rational value.  Each operation computes the exact result and then rounds
it once to a `Precision`, to nearest with ties to even:

* `Precision.nearest` is that rounding on rationals;
* `Binary.ofRat` adds overflow to an infinity and the sign of a zero;
* the operations are `Binary.ofRat` of the exact sum, product, quotient or
  remainder, with the rules for the special values in front.

No machine arithmetic is involved, so every operation can be computed with and
reasoned about on rationals.
-/

namespace Palette

/-- A format of binary numbers: the significant bits, the exponent of the last
bit of the smallest numbers, and the exponent from which on a number is
infinite. -/
structure Precision where
  bits : Nat
  leastExponent : Int
  limitExponent : Int
  deriving DecidableEq, Repr

/-- Numbers of 32 bits. -/
def Precision.single : Precision := ⟨24, -149, 128⟩

/-- Numbers of 64 bits. -/
def Precision.double : Precision := ⟨53, -1074, 1024⟩

/-! ## Rounding -/

/-- The nearest integer; a half goes to the even neighbour. -/
def roundHalfEven (value : Rat) : Int :=
  let below := value.floor
  let part := value - below
  if part < 1 / 2 then below
  else if 1 / 2 < part then below + 1
  else if below % 2 = 0 then below
  else below + 1

/-- The exponent of the highest power of two that a positive value reaches. -/
def floorLog2 (value : Rat) : Int :=
  let estimate : Int := (value.num.natAbs.log2 : Int) - (value.den.log2 : Int)
  if (2 : Rat) ^ estimate ≤ value then estimate else estimate - 1

/-- The distance of neighbouring numbers of this precision around a value. -/
def Precision.spacing (precision : Precision) (value : Rat) : Rat :=
  (2 : Rat) ^ max (floorLog2 value.abs - precision.bits + 1) precision.leastExponent

/-- The nearest value of this precision, were there no largest one; a half goes
to the even neighbour. -/
def Precision.nearest (precision : Precision) (value : Rat) : Rat :=
  if value = 0 then 0
  else roundHalfEven (value / precision.spacing value) * precision.spacing value

/-- A binary number.  The zero without a minus sign is `finite 0`. -/
inductive Binary where
  | nan
  | infinity (negative : Bool)
  | negativeZero
  | finite (value : Rat)
  deriving DecidableEq, Repr

namespace Binary

instance : Inhabited Binary := ⟨.finite 0⟩

/-- The exact value of a number that has one. -/
def value? : Binary → Option Rat
  | nan => none
  | infinity _ => none
  | negativeZero => some 0
  | finite value => some value

/-- Whether the number carries a minus sign. -/
def isNegative : Binary → Bool
  | nan => false
  | infinity negative => negative
  | negativeZero => true
  | finite value => value < 0

/-- The zero with the given sign. -/
def zero (negative : Bool) : Binary :=
  if negative then negativeZero else finite 0

/-- The exact `value` rounded to `precision`.  `negative` is the sign in case the
value is zero. -/
def ofRat (precision : Precision) (negative : Bool) (value : Rat) : Binary :=
  let rounded := precision.nearest value
  if rounded = 0 then zero (if value = 0 then negative else value < 0)
  else if (2 : Rat) ^ precision.limitExponent ≤ rounded.abs then infinity (value < 0)
  else finite rounded

/-- An integer as a number. -/
def ofInt (precision : Precision) (value : Int) : Binary :=
  ofRat precision false value

/-- The number rounded to another precision. -/
def toPrecision (precision : Precision) : Binary → Binary
  | finite value => ofRat precision false value
  | other => other

/-! ## Arithmetic -/

/-- The number with the opposite sign. -/
def neg : Binary → Binary
  | nan => nan
  | infinity negative => infinity !negative
  | negativeZero => finite 0
  | finite value => if value = 0 then negativeZero else finite (-value)

/-- The rounded sum. -/
def add (precision : Precision) : Binary → Binary → Binary
  | nan, _ => nan
  | _, nan => nan
  | infinity left, infinity right => if left = right then infinity left else nan
  | infinity left, _ => infinity left
  | _, infinity right => infinity right
  | negativeZero, negativeZero => negativeZero
  | left, right => ofRat precision false (left.value?.getD 0 + right.value?.getD 0)

/-- The rounded difference. -/
def sub (precision : Precision) (left right : Binary) : Binary :=
  add precision left right.neg

/-- The rounded product. -/
def mul (precision : Precision) (left right : Binary) : Binary :=
  let negative := left.isNegative != right.isNegative
  match left.value?, right.value? with
  | some first, some second => ofRat precision negative (first * second)
  | some first, none => if right = nan ∨ first = 0 then nan else infinity negative
  | none, some second => if left = nan ∨ second = 0 then nan else infinity negative
  | none, none => if left = nan ∨ right = nan then nan else infinity negative

/-- The rounded quotient. -/
def div (precision : Precision) (left right : Binary) : Binary :=
  let negative := left.isNegative != right.isNegative
  match left.value?, right.value? with
  | some first, some second =>
    if second = 0 then (if first = 0 then nan else infinity negative)
    else ofRat precision negative (first / second)
  | some _, none => if right = nan then nan else zero negative
  | none, some _ => if left = nan then nan else infinity negative
  | none, none => nan

/-- The integer part of a rational, rounded toward zero. -/
def truncate (value : Rat) : Int :=
  if value < 0 then value.ceil else value.floor

/-- The remainder that takes the sign of a finite, non-zero divisor.  The exact
remainder of the truncated quotient is moved into the divisor's range by one
rounded addition. -/
def modulo (precision : Precision) (left right : Binary) : Binary :=
  match left.value?, right.value? with
  | some first, some second =>
    let remainder := first - truncate (first / second) * second
    if second = 0 then nan
    else if remainder = 0 then zero right.isNegative
    else if (remainder < 0) = (second < 0) then ofRat precision false remainder
    else ofRat precision false (remainder + second)
  | _, _ => nan

/-! ## Comparison -/

/-- Whether the left number is below the right one. -/
def lt : Binary → Binary → Bool
  | nan, _ => false
  | _, nan => false
  | infinity left, infinity right => left && !right
  | infinity left, _ => left
  | _, infinity right => !right
  | left, right => left.value?.getD 0 < right.value?.getD 0

/-- Whether two numbers are numerically equal: the zeros are, and nothing equals
what is not a number. -/
def eq : Binary → Binary → Bool
  | nan, _ => false
  | _, nan => false
  | infinity left, infinity right => left == right
  | infinity _, _ => false
  | _, infinity _ => false
  | left, right => left.value?.getD 0 == right.value?.getD 0

/-- The number, moved to the nearer end if it lies outside the range. -/
def clamp (low high number : Binary) : Binary :=
  if lt number low then low else if lt high number then high else number

/-- The nearest integer; a half goes to the even neighbour, and a number without
a value counts as zero. -/
def round (number : Binary) : Int :=
  roundHalfEven (number.value?.getD 0)

/-! ## Interface lemmas -/

@[simp] theorem value?_nan : nan.value? = none := rfl

@[simp] theorem value?_infinity (negative : Bool) : (infinity negative).value? = none := rfl

@[simp] theorem value?_negativeZero : negativeZero.value? = some 0 := rfl

@[simp] theorem value?_finite (value : Rat) : (finite value).value? = some value := rfl

@[simp] theorem neg_nan : nan.neg = nan := rfl

@[simp] theorem lt_nan (number : Binary) : lt number nan = false := by
  cases number <;> rfl

@[simp] theorem nan_lt (number : Binary) : lt nan number = false := rfl

/-- What is not a number stays so under a clamp. -/
@[simp] theorem clamp_nan (low high : Binary) : clamp low high nan = nan := by
  simp [clamp]

end Binary

end Palette
