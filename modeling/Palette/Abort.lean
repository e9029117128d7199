import Palette.Calendar
import Palette.Text.Quoted

/-!
# Aborts

Most failures are reported: as a warning, or as a fault with a code.  An abort is
one that no stage reports.  It ends the whole operation with a message of its own.
-/

namespace Palette

open Palette.Text

/-- Why an operation ended without a report. -/
inductive Abort where
  /-- A pair of hexadecimal digits, or a numeral, that spells no integer. -/
  | badInteger (base : Nat) (text : String)
  | badNumber (text : String)
  | tooManyDigits (count : Nat)
  /-- An integer with more digits than are written out. -/
  | unwritableInteger
  /-- A word that is neither true nor false. -/
  | badTruth (word : String)
  /-- A numeral without any character. -/
  | emptyNumeral
  /-- A text tagged as a time that has not the form of one. -/
  | badMoment
  /-- A collection tagged as a time. -/
  | collectionMoment
  | impossibleDate (fault : CalendarFault)
  /-- An escape for a code point past the last one. -/
  | badCodePoint
  /-- An escape for a code point that is no machine integer. -/
  | hugeCodePoint
  /-- A numeral with so many parts that the place value of the first is no number. -/
  | hugePlaceValue
  /-- A path with a null character. -/
  | nullInPath
  /-- A failure that a module raised and that is none of its own, by class and
  message. -/
  | raised (className message : String)
  deriving DecidableEq, Repr

/-- The message of an abort. -/
def Abort.message : Abort → String
  | .badInteger base text =>
    "invalid literal for int() with base " ++ toString base ++ ": " ++
      String.ofList ((quoted text).toList.take 200)
  | .badNumber text => "could not convert string to float: " ++ quoted text
  | .tooManyDigits count =>
    "Exceeds the limit (4300 digits) for integer string conversion: value has " ++
      toString count ++ " digits; use sys.set_int_max_str_digits() to increase the limit"
  | .unwritableInteger =>
    "Exceeds the limit (4300 digits) for integer string conversion; " ++
      "use sys.set_int_max_str_digits() to increase the limit"
  | .badTruth word => quoted word
  | .emptyNumeral => "string index out of range"
  | .badMoment => "'NoneType' object has no attribute 'groupdict'"
  | .collectionMoment => "expected string or bytes-like object, got 'list'"
  | .impossibleDate fault => fault.message
  | .badCodePoint => "chr() arg not in range(0x110000)"
  | .hugeCodePoint => "Python int too large to convert to C int"
  | .hugePlaceValue => "int too large to convert to float"
  | .nullInPath => "embedded null byte"
  | .raised _ message => message

end Palette
