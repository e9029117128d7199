import Palette.Binary.Decimal
import Palette.Json.Fault
import Palette.Text.HexDigit

/-!
# Reading JSON

`Json.read` reads a whole text as one value.  Mappings keep the order of their
names, and a repeated name keeps its first place and takes its last value.  The
names `NaN`, `Infinity` and `-Infinity` stand for numbers, integers are exact, and
a number ends where its longest valid spelling ends.

Every reading step returns the value and what is left of the text.  A flaw carries
what is left at its place, from which `Json.read` finds the position.

Values may lie inside each other without a limit.  Texts are made of characters, so an escape
for one half of a pair that stands alone is read as the replacement character U+FFFD.
-/

namespace Palette.Json

open Palette.Text

/-- A flaw, with what is left of the text at its place, or an integer with too many
digits. -/
inductive Stop where
  | flawed (flaw : Flaw) (left : List Char)
  | tooManyDigits (count : Nat)

/-- The blank characters between the parts of a text. -/
def isSpace (character : Char) : Bool :=
  character == ' ' || character == '\t' || character == '\n' || character == '\r'

/-- The text without its leading blanks. -/
def skipSpace (characters : List Char) : List Char :=
  characters.dropWhile isSpace

/-! ## Texts -/

/-- The value of four hexadecimal digits. -/
def fourDigits? : List Char → Option Nat
  | [first, second, third, fourth] => do
    let high := 16 * (← hexDigit? first) + (← hexDigit? second)
    let low := 16 * (← hexDigit? third) + (← hexDigit? fourth)
    return 256 * high + low
  | _ => none

/-- The character behind a backslash that is no code point. -/
def simpleEscape? : Char → Option Char
  | '"' => some '"'
  | '\\' => some '\\'
  | '/' => some '/'
  | 'b' => some '\x08'
  | 'f' => some '\x0C'
  | 'n' => some '\n'
  | 'r' => some '\r'
  | 't' => some '\t'
  | _ => none

/-- Reads a code point written as four digits, after the letter u at `mark`.  Two
halves of a pair written one after the other make one character; a half that
stands alone has no character of its own. -/
def readCodePoint (mark : List Char) : Except Stop (Char × List Char) :=
  let rest := mark.drop 1
  let after := rest.drop 4
  if after = [] then .error (.flawed .badUnicodeEscape mark)
  else
    match fourDigits? (rest.take 4) with
    | none => .error (.flawed .badUnicodeEscape mark)
    | some code =>
      if 0xD800 ≤ code ∧ code ≤ 0xDBFF ∧ after.take 2 = ['\\', 'u'] ∧ after.drop 6 ≠ [] then
        match fourDigits? ((after.drop 2).take 4) with
        | none => .error (.flawed .badUnicodeEscape (after.drop 1))
        | some low =>
          if 0xDC00 ≤ low ∧ low ≤ 0xDFFF then
            .ok (Char.ofNat (0x10000 + (code - 0xD800) * 0x400 + (low - 0xDC00)), after.drop 6)
          else .ok ('\uFFFD', after)
      else if 0xD800 ≤ code ∧ code ≤ 0xDFFF then .ok ('\uFFFD', after)
      else .ok (Char.ofNat code, after)

/-- Reads a text whose quote stands at `start`; `done` holds the characters read so
far, the latest first. -/
def readText (start : List Char) : Nat → List Char → List Char → Except Stop (String × List Char)
  | 0, _, _ => .error (.flawed .unterminatedText start)
  | fuel + 1, done, characters =>
    match characters with
    | [] => .error (.flawed .unterminatedText start)
    | '"' :: rest => .ok (String.ofList done.reverse, rest)
    | '\\' :: rest =>
      match rest with
      | [] => .error (.flawed .unterminatedText start)
      | 'u' :: _ => do
        let (character, left) ← readCodePoint rest
        readText start fuel (character :: done) left
      | mark :: left =>
        match simpleEscape? mark with
        | none => .error (.flawed .badEscape characters)
        | some character => readText start fuel (character :: done) left
    | character :: rest =>
      if character.toNat < 0x20 then .error (.flawed .controlCharacter characters)
      else readText start fuel (character :: done) rest

/-! ## Numbers -/

/-- The longest integer and the longest number at the start of a text, as the
characters of the number, whether it has a fraction or an exponent, and what is
left. -/
def numberAt? (characters : List Char) : Option (List Char × Bool × List Char) :=
  let (sign, unsigned) :=
    match characters with
    | '-' :: rest => (['-'], rest)
    | rest => ([], rest)
  let whole :=
    match unsigned with
    | '0' :: _ => ['0']
    | _ => unsigned.takeWhile Char.isDigit
  if whole = [] then none
  else
    let afterWhole := unsigned.drop whole.length
    let fraction :=
      match afterWhole with
      | '.' :: rest =>
        let digits := rest.takeWhile Char.isDigit
        if digits = [] then [] else '.' :: digits
      | _ => []
    let afterFraction := afterWhole.drop fraction.length
    let exponent :=
      match afterFraction with
      | mark :: rest =>
        if mark = 'e' ∨ mark = 'E' then
          let signed :=
            match rest with
            | '+' :: _ => ['+']
            | '-' :: _ => ['-']
            | _ => []
          let digits := (rest.drop signed.length).takeWhile Char.isDigit
          if digits = [] then [] else mark :: signed ++ digits
        else []
      | [] => []
    some (sign ++ whole ++ fraction ++ exponent, fraction ≠ [] ∨ exponent ≠ [],
      afterFraction.drop exponent.length)

/-- Reads a number. -/
def readNumber (characters : List Char) : Except Stop (Value × List Char) :=
  match numberAt? characters with
  | none => .error (.flawed .expectedValue characters)
  | some (number, isFraction, left) =>
    let (negative, digits) := Decimal.takeSign number
    if isFraction then
      match Decimal.ofText? number with
      | some decimal => .ok (.float (decimal.toBinary .double), left)
      | none => .error (.flawed .expectedValue characters)
    else if Decimal.digitLimit < digits.length then .error (.tooManyDigits digits.length)
    else
      let value := Decimal.digitsValue digits
      .ok (.int (if negative then -(value : Int) else value), left)

/-- The words that stand for values. -/
def wordValues : List (List Char × Value) :=
  [("null".toList, .null), ("true".toList, .bool true), ("false".toList, .bool false),
    ("NaN".toList, .float .nan), ("Infinity".toList, .float (.infinity false)),
    ("-Infinity".toList, .float (.infinity true))]

/-- Reads a word or a number. -/
def readScalar (characters : List Char) : Except Stop (Value × List Char) :=
  match wordValues.find? fun entry => entry.1.isPrefixOf characters with
  | some (word, value) => .ok (value, characters.drop word.length)
  | none => readNumber characters

/-! ## Values -/

mutual

/-- Reads a value that begins at once. -/
def readValue : Nat → List Char → Except Stop (Value × List Char)
  | 0, characters => .error (.flawed .expectedValue characters)
  | fuel + 1, characters =>
    match characters with
    | '"' :: rest => do
      let (text, left) ← readText characters (rest.length + 1) [] rest
      return (.text text, left)
    | '{' :: rest =>
      match skipSpace rest with
      | '}' :: left => .ok (.mapping [], left)
      | begun => readMembers fuel [] begun
    | '[' :: rest =>
      match skipSpace rest with
      | ']' :: left => .ok (.list [], left)
      | begun => readElements fuel [] begun
    | _ => readScalar characters

/-- Reads the members of a mapping from the first name on, up to and including the
closing brace. -/
def readMembers : Nat → Value.Entries → List Char → Except Stop (Value × List Char)
  | 0, _, characters => .error (.flawed .expectedName characters)
  | fuel + 1, entries, characters =>
    match characters with
    | '"' :: rest => do
      let (name, afterName) ← readText characters (rest.length + 1) [] rest
      match skipSpace afterName with
      | ':' :: afterColon =>
        let (value, afterValue) ← readValue fuel (skipSpace afterColon)
        let entries := Value.put Value.sameKey entries (.text name) value
        match skipSpace afterValue with
        | '}' :: left => return (.mapping entries, left)
        | ',' :: next => readMembers fuel entries (skipSpace next)
        | other => throw (.flawed .expectedComma other)
      | other => throw (.flawed .expectedColon other)
    | _ => .error (.flawed .expectedName characters)

/-- Reads the elements of a list from the first one on, up to and including the
closing bracket; `done` holds the elements read so far, the latest first. -/
def readElements : Nat → List Value → List Char → Except Stop (Value × List Char)
  | 0, _, characters => .error (.flawed .expectedValue characters)
  | fuel + 1, done, characters => do
    let (value, afterValue) ← readValue fuel characters
    match skipSpace afterValue with
    | ']' :: left => return (.list (value :: done).reverse, left)
    | ',' :: next => readElements fuel (value :: done) (skipSpace next)
    | other => throw (.flawed .expectedComma other)

end

/-- The value that a whole text spells.  Each collection takes two steps more than its
parts, so the steps are bounded by twice the length. -/
def read (characters : List Char) : Except Fault Value :=
  let positioned (stop : Stop) : Fault :=
    match stop with
    | .flawed flaw left => .malformed flaw (characters.length - left.length)
    | .tooManyDigits count => .tooManyDigits count
  match characters with
  | '\uFEFF' :: _ => .error (.malformed .byteOrderMark 0)
  | _ =>
    match readValue (2 * characters.length + 2) (skipSpace characters) with
    | .error stop => .error (positioned stop)
    | .ok (value, rest) =>
      let left := skipSpace rest
      if left = [] then .ok value else .error (positioned (.flawed .extraData left))

end Palette.Json
