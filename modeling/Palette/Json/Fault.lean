import Palette.Value.Basic

/-!
# Faults of JSON texts

A text that is not JSON has a flaw at a position, shown as line, column and count
of characters.  An integer with too many digits is refused for its length alone
and has no position.
-/

namespace Palette.Json

/-- What is wrong with a text. -/
inductive Flaw where
  | expectedValue
  | expectedName
  | expectedColon
  | expectedComma
  | extraData
  | unterminatedText
  | controlCharacter
  | badEscape
  | badUnicodeEscape
  | byteOrderMark
  deriving DecidableEq, Repr

/-- The wording of a flaw. -/
def Flaw.message : Flaw → String
  | .expectedValue => "Expecting value"
  | .expectedName => "Expecting property name enclosed in double quotes"
  | .expectedColon => "Expecting ':' delimiter"
  | .expectedComma => "Expecting ',' delimiter"
  | .extraData => "Extra data"
  | .unterminatedText => "Unterminated string starting at"
  | .controlCharacter => "Invalid control character at"
  | .badEscape => "Invalid \\escape"
  | .badUnicodeEscape => "Invalid \\uXXXX escape"
  | .byteOrderMark => "Unexpected UTF-8 BOM (decode using utf-8-sig)"

/-- Why a text could not be read. -/
inductive Fault where
  | malformed (flaw : Flaw) (position : Nat)
  /-- An integer whose digits are too many to convert. -/
  | tooManyDigits (count : Nat)
  deriving DecidableEq, Repr

/-- The characters before a position.  A position below zero is counted from the end. -/
def before (characters : List Char) (position : Int) : List Char :=
  characters.take
    (if position < 0 then (characters.length + position).toNat else position.toNat)

/-- A message with the place of `position` in a text: the line, counted from one, the
distance from the line break in front of it, and the position itself, counted from
zero. -/
def placed (message : String) (characters : List Char) (position : Int) : String :=
  let passed := before characters position
  let line := passed.count '\n' + 1
  let sinceBreak := (passed.reverse.takeWhile (· != '\n')).length
  let column := position - (passed.length - sinceBreak - 1 : Int)
  message ++ ": line " ++ toString line ++ " column " ++ toString column ++
    " (char " ++ toString position ++ ")"

end Palette.Json
