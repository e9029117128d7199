import Palette.Abort
import Palette.Binary.Decimal
import Palette.Calendar
import Palette.Text.Blank
import Palette.Text.HexDigit
import Palette.Text.LowerCase
import Palette.Text.Parts
import Palette.Value.Basic
import Palette.Yaml.Scalar

/-!
# Tags and the scalars they make

A tag says what a node is.  A plain scalar without a tag has one by its form
(`Tag.ofPlain`): a truth value, an integer, a number, a null, a time, the mark of a
merge or of a default value, and else a text.

`scalarValue` gives the value of a scalar under a tag.  A tag may be put on a scalar
that has not the form for it; what comes of that is an abort or a fault, case by
case.
-/

namespace Palette.Yaml

open Palette.Text

/-- What a node is. -/
inductive Tag where
  | null
  | bool
  | int
  | float
  | binary
  | time
  | text
  | sequence
  | mapping
  | set
  /-- A sequence of mappings of one entry each, as a list of pairs. -/
  | pairs
  | merge
  | default
  | unknown
  deriving DecidableEq, Repr

namespace Tag

/-- The beginning of all standard tags. -/
def standardStart : String := "tag:yaml.org,2002:"

/-- The tags by their names. -/
def named : List (String × Tag) :=
  [("null", null), ("bool", bool), ("int", int), ("float", float), ("binary", binary),
    ("timestamp", time), ("str", text), ("seq", sequence), ("map", mapping), ("set", set),
    ("omap", pairs), ("pairs", pairs), ("merge", merge), ("value", default)]

/-- The tag of a full name. -/
def ofName (name : String) : Tag :=
  ((named.find? fun entry => standardStart ++ entry.1 == name).map Prod.snd).getD unknown

end Tag

/-! ## Forms of plain scalars -/

/-- A digit or a low line. -/
def isDigitOrLine (character : Char) : Bool :=
  character.isDigit || character == '_'

/-- Digits and low lines that begin with a digit. -/
def isDigits : List Char → Bool
  | [] => false
  | first :: rest => first.isDigit && rest.all isDigitOrLine

/-- The characters without a sign in front. -/
def unsigned : List Char → List Char
  | '+' :: rest => rest
  | '-' :: rest => rest
  | rest => rest

/-- A part in base sixty after the first one. -/
def isSixtieth : List Char → Bool
  | [digit] => digit.isDigit
  | [ten, digit] => '0' ≤ ten && ten ≤ '5' && digit.isDigit
  | _ => false

/-- The exponent of a number, which has a sign, or nothing. -/
def isSignedExponent : List Char → Bool
  | [] => true
  | mark :: sign :: digits =>
    (mark == 'e' || mark == 'E') && (sign == '+' || sign == '-') && digits != [] &&
      digits.all Char.isDigit
  | _ => false

/-- An integer: in base two, eight or sixteen after a mark, in base eight after a zero,
in base ten, or in base sixty with colons. -/
def isInteger (characters : List Char) : Bool :=
  match unsigned characters with
  | '0' :: 'b' :: digits =>
    digits != [] && digits.all fun digit => digit == '0' || digit == '1' || digit == '_'
  | '0' :: 'x' :: digits =>
    digits != [] && digits.all fun digit => isHexDigit digit || digit == '_'
  | ['0'] => true
  | '0' :: digits => digits.all fun digit => ('0' ≤ digit && digit ≤ '7') || digit == '_'
  | digits =>
    match parts ':' digits with
    | [only] => isDigits only
    | first :: others => isDigits first && others.all isSixtieth
    | [] => false

/-- A number with a point: in base ten, with an exponent only if it has a sign, in base
sixty, or one of the special numbers. -/
def isNumber (characters : List Char) : Bool :=
  let magnitude := unsigned characters
  let whole := magnitude.takeWhile (· != '.')
  match magnitude.dropWhile (· != '.') with
  | [] => false
  | _ :: after =>
    let fraction := after.takeWhile isDigitOrLine
    let exponent := after.dropWhile isDigitOrLine
    let isSpecial := whole == [] &&
      ["inf", "Inf", "INF"].any fun word => word.toList == after
    let isNan := characters.head? == some '.' &&
      ["nan", "NaN", "NAN"].any fun word => word.toList == after
    let isBare := characters.head? == some '.' && isDigits fraction && isSignedExponent exponent
    let isPlain := isDigits whole && isSignedExponent exponent
    let isSexagesimal :=
      match parts ':' whole with
      | first :: second :: others =>
        isDigits first && (second :: others).all isSixtieth && exponent == []
      | _ => false
    isSpecial || isNan || isBare || isPlain || isSexagesimal

/-! ## Times -/

/-- A row of at least `least` and at most `most` digits at the start, and what
follows. -/
def takeDigits? (least most : Nat) (characters : List Char) : Option (Nat × List Char) :=
  let digits := (characters.take most).takeWhile Char.isDigit
  if least ≤ digits.length then
    some (Decimal.digitsValue digits, characters.drop digits.length)
  else none

/-- What follows an expected character. -/
def expect? (expected : Char) : List Char → Option (List Char)
  | [] => none
  | character :: rest => if character = expected then some rest else none

/-- A time of day as it is written. -/
structure Clock where
  hour : Nat
  minute : Nat
  second : Nat
  fraction : List Char
  /-- Minutes east of universal time. -/
  offset : Option Int

/-- A date, perhaps with a time, as it is written. -/
structure WrittenTime where
  year : Nat
  month : Nat
  day : Nat
  clock : Option Clock
  /-- Month and day have two digits each. -/
  isPadded : Bool

/-- The offset that a text spells as a whole: nothing, a Z, or a sign with hours and
perhaps minutes. -/
def readOffset? (characters : List Char) : Option (Option Int) :=
  if characters = [] then some none
  else
    match characters.dropWhile fun character => character == ' ' || character == '\t' with
    | ['Z'] => some (some 0)
    | sign :: rest =>
      if sign = '+' ∨ sign = '-' then do
        let (hours, afterHours) ← takeDigits? 1 2 rest
        let minutes ←
          match afterHours with
          | [] => some 0
          | ':' :: digits =>
            match takeDigits? 2 2 digits with
            | some (minutes, []) => some minutes
            | _ => none
          | _ => none
        let offset : Int := hours * 60 + minutes
        return some (if sign = '-' then -offset else offset)
      else none
    | [] => none

/-- The time of day that a text spells as a whole. -/
def readClock? (characters : List Char) : Option Clock := do
  let (hour, afterHour) ← takeDigits? 1 2 characters
  let (minute, afterMinute) ← takeDigits? 2 2 (← expect? ':' afterHour)
  let (second, afterSecond) ← takeDigits? 2 2 (← expect? ':' afterMinute)
  let (fraction, after) :=
    match afterSecond with
    | '.' :: rest => (rest.takeWhile Char.isDigit, rest.dropWhile Char.isDigit)
    | rest => ([], rest)
  let offset ← readOffset? after
  return ⟨hour, minute, second, fraction, offset⟩

/-- The date, perhaps with a time, that a text spells as a whole. -/
def readTime? (characters : List Char) : Option WrittenTime := do
  let (year, afterYear) ← takeDigits? 4 4 characters
  let monthText ← expect? '-' afterYear
  let (month, afterMonth) ← takeDigits? 1 2 monthText
  let dayText ← expect? '-' afterMonth
  let (day, afterDay) ← takeDigits? 1 2 dayText
  let isPadded := (takeDigits? 2 2 monthText).isSome && (takeDigits? 2 2 dayText).isSome
  match afterDay with
  | [] => return ⟨year, month, day, none, isPadded⟩
  | separator :: rest =>
    if separator = 'T' ∨ separator = 't' then
      let clock ← readClock? rest
      return ⟨year, month, day, some clock, isPadded⟩
    else if separator = ' ' ∨ separator = '\t' then
      let clock ← readClock? (rest.dropWhile fun character => character == ' ' || character == '\t')
      return ⟨year, month, day, some clock, isPadded⟩
    else none

/-- A time as a plain scalar: a date alone has two digits for month and day. -/
def isTime (characters : List Char) : Bool :=
  match readTime? characters with
  | none => false
  | some time => time.clock.isSome || time.isPadded

/-! ## The tag of a plain scalar -/

/-- The words for truth values, in their three spellings. -/
def truthWords : List (String × Bool) :=
  [("yes", true), ("Yes", true), ("YES", true), ("no", false), ("No", false), ("NO", false),
    ("true", true), ("True", true), ("TRUE", true), ("false", false), ("False", false),
    ("FALSE", false), ("on", true), ("On", true), ("ON", true), ("off", false), ("Off", false),
    ("OFF", false)]

/-- The tag of a scalar without one, by its form.  One line break at the end of a
scalar that has characters does not count. -/
def Tag.ofPlain (text : String) : Tag :=
  let characters := text.toList
  if characters = [] then .null
  else
    let content :=
      if characters.getLast? = some '\n' then characters.dropLast else characters
    let word := String.ofList content
    if content = [] then .text
    else if truthWords.any fun entry => entry.1 == word then .bool
    else if isNumber content then .float
    else if isInteger content then .int
    else if word = "<<" then .merge
    else if ["~", "null", "Null", "NULL"].contains word then .null
    else if isTime content then .time
    else if word = "=" then .default
    else if ["!", "&", "*"].contains word then .unknown
    else .text

/-! ## Values of scalars -/

/-- The integer of a text in a base: blanks around it, a sign, and a mark of the base
may stand with the digits of any script. -/
def integerInBase? (base : Nat) (characters : List Char) : Option Int :=
  let digit? (character : Char) : Option Nat :=
    (digitValue? character).or (hexDigit? character.toLower)
  let (negative, magnitude) := Decimal.takeSign (trim characters)
  let marked : Bool :=
    match magnitude with
    | '0' :: mark :: _ =>
      (base == 16 && mark.toLower == 'x') || (base == 8 && mark.toLower == 'o') ||
        (base == 2 && mark.toLower == 'b')
    | _ => false
  let digits := if marked then magnitude.drop 2 else magnitude
  if digits ≠ [] ∧ digits.all fun digit => ((digit? digit).any fun value => value < base) then
    let value := digits.foldl (fun value digit => base * value + (digit? digit).getD 0) 0
    some (if negative then -(value : Int) else value)
  else none

/-- An integer in a base, or the abort for a text that is none. -/
def integerInBase (base : Nat) (characters : List Char) : Except Abort Int :=
  match integerInBase? base characters with
  | none => .error (.badInteger base (String.ofList characters))
  | some value =>
    let count := (characters.filter isDigit).length
    if base = 10 ∧ Decimal.digitLimit < count then .error (.tooManyDigits count) else .ok value

/-- A scalar's characters without low lines. -/
def withoutLines (text : String) : List Char :=
  text.toList.filter (· != '_')

/-- A sign in front of a numeral and what follows it; a numeral without characters
aborts. -/
def splitSign : List Char → Except Abort (Bool × List Char)
  | [] => .error .emptyNumeral
  | first :: rest =>
    .ok (if first = '-' then (true, rest) else if first = '+' then (false, rest)
      else (false, first :: rest))

/-- The integer that a scalar spells. -/
def integerValue (text : String) : Except Abort Int := do
  let (negative, digits) ← splitSign (withoutLines text)
  let magnitude ←
    match digits with
    | ['0'] => pure 0
    | '0' :: 'b' :: digits => integerInBase 2 digits
    | '0' :: 'x' :: digits => integerInBase 16 digits
    | '0' :: rest => integerInBase 8 ('0' :: rest)
    | [] => throw .emptyNumeral
    | digits =>
      if ':' ∈ digits then do
        let parts ← (parts ':' digits).mapM (integerInBase 10)
        pure (parts.foldl (fun value part => 60 * value + part) 0)
      else integerInBase 10 digits
  return if negative then -magnitude else magnitude

/-- The number that a text spells, with blanks around it and the digits of any
script. -/
def numberOf? (characters : List Char) : Option Binary :=
  let content := trim characters
  let (negative, magnitude) := Decimal.takeSign content
  let word := String.ofList (magnitude.map Char.toLower)
  if word = "inf" ∨ word = "infinity" then some (.infinity negative)
  else if word = "nan" then some .nan
  else (Decimal.ofText? content).map (Decimal.toBinary .double)

/-- The number that a text spells, or the abort for a text that is none. -/
def numberOf (characters : List Char) : Except Abort Binary :=
  match numberOf? characters with
  | none => .error (.badNumber (String.ofList characters))
  | some number => .ok number

/-- The sum of parts in base sixty, the last one first, added to `sum`.  The first part's
place value is `base`. -/
def sexagesimalSum (sum : Binary) (base : Nat) : List Binary → Except Abort Binary
  | [] => .ok sum
  | part :: parts =>
    match Binary.ofInt .double base with
    | .infinity _ => .error .hugePlaceValue
    | factor =>
      sexagesimalSum (Binary.add .double sum (Binary.mul .double part factor)) (base * 60) parts

/-- Whether a scalar spells what is not a number by its own mark, rather than as a word
that numerals allow. -/
def isNanMark (text : String) : Bool :=
  match splitSign (lower (withoutLines text)) with
  | .ok (_, magnitude) => magnitude == ".nan".toList
  | .error _ => false

/-- The number that a scalar spells. -/
def numberValue (text : String) : Except Abort Binary := do
  let (negative, digits) ← splitSign (lower (withoutLines text))
  let sign (number : Binary) : Binary := if negative then number.neg else number
  if digits = ".inf".toList then return sign (.infinity false)
  else if digits = ".nan".toList then return .nan
  else if ':' ∈ digits then
    let parts ← (parts ':' digits).mapM numberOf
    return sign (← sexagesimalSum (.finite 0) 1 parts.reverse)
  else return sign (← numberOf digits)

/-- The truth value that a scalar spells, in any letter case. -/
def truthValue (text : String) : Except Abort Bool :=
  let word := lowerString text
  match (truthWords.find? fun entry => entry.1 == word).map Prod.snd with
  | some value => .ok value
  | none => .error (.badTruth word)

/-- The first six digits of a fraction of a second, as microseconds. -/
def microseconds (digits : List Char) : Nat :=
  let first := digits.take 6
  Decimal.digitsValue (first ++ List.replicate (6 - first.length) '0')

/-- The date or time that a scalar spells. -/
def timeValue (text : String) : Except Abort Value :=
  let characters := text.toList
  let content := if characters.getLast? = some '\n' then characters.dropLast else characters
  match readTime? content with
  | none => .error .badMoment
  | some time =>
    match time.clock with
    | none => ((Date.ofParts time.year time.month time.day).map .date).mapError .impossibleDate
    | some clock =>
      ((Moment.ofParts time.year time.month time.day clock.hour clock.minute clock.second
        (microseconds clock.fraction) clock.offset).map .moment).mapError .impossibleDate

/-! ## Bytes -/

/-- The value of a digit in base sixty-four. -/
def base64Digit? (character : Char) : Option Nat :=
  let code := character.toNat
  if character.isUpper then some (code - 'A'.toNat)
  else if character.isLower then some (code - 'a'.toNat + 26)
  else if character.isDigit then some (code - '0'.toNat + 52)
  else if character = '+' then some 62
  else if character = '/' then some 63
  else none

/-- Reads bytes in base sixty-four.  `place` counts the digits of the present group of
four, `left` holds the bits that make no whole byte yet, `pads` counts the equals
signs in a row, and `done` holds the bytes read so far, the latest first.  Other
characters are passed over; a group that ends early must be filled up with equals
signs. -/
def readBase64 (place left pads : Nat) (done : List UInt8) : List Char → Option (List UInt8)
  | [] => if place = 0 then some done.reverse else none
  | character :: rest =>
    if character = '=' then
      if 2 ≤ place then
        if 4 ≤ place + (pads + 1) then some done.reverse
        else readBase64 place left (pads + 1) done rest
      else readBase64 place left pads done rest
    else
      match base64Digit? character with
      | none => readBase64 place left pads done rest
      | some digit =>
        match place with
        | 0 => readBase64 1 digit 0 done rest
        | 1 => readBase64 2 (digit % 16) 0 (UInt8.ofNat (left * 4 + digit / 16) :: done) rest
        | 2 => readBase64 3 (digit % 4) 0 (UInt8.ofNat (left * 16 + digit / 4) :: done) rest
        | _ => readBase64 0 0 0 (UInt8.ofNat (left * 64 + digit) :: done) rest

/-- The bytes that a scalar spells. -/
def bytesValue (text : String) : Except Fault Value :=
  let characters := text.toList
  if characters.any fun character => 0x80 ≤ character.toNat then
    refuse "failed to convert base64 data into ascii"
  else
    match readBase64 0 0 0 [] characters with
    | none => refuse "failed to decode base64 data"
    | some bytes => .ok (.bytes bytes)

/-- The value of a scalar under a tag.  Tags of collections, marks and unknown tags
make no value of a scalar. -/
def scalarValue (tag : Tag) (text : String) : Except Fault Value :=
  match tag with
  | .null => .ok .null
  | .bool => ((truthValue text).map .bool).mapError .impossible
  | .int => ((integerValue text).map .int).mapError .impossible
  | .float => ((numberValue text).map .float).mapError .impossible
  | .time => (timeValue text).mapError .impossible
  | .binary => bytesValue text
  | .text => .ok (.text text)
  | _ => refuse "could not determine a constructor for the tag"

end Palette.Yaml
