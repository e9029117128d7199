import Palette.Value.Basic
import Palette.Text.Quoted
import Palette.Binary.Decimal
import Palette.Binary.Shortest

/-!
# The texts of a value

A value has two texts.  `Value.shown` is the one for messages that quote a value:
texts and bytes stand between quotes, collections between brackets.
`Value.display` is the one for names: a text stands for itself, and every other
value is shown.

Integers with very many digits are not written out, so a value that holds one has no
text that may be told (`Value.isWritable`).
-/

namespace Palette.Value

open Palette.Text

mutual

/-- The quoting text of a value. -/
def shown : Value → String
  | null => "None"
  | bool value => if value then "True" else "False"
  | int value => toString value
  | float value => value.text
  | text value => quoted value
  | bytes value => quotedBytes value
  | date value => value.text
  | moment value => value.text " "
  | list items => "[" ++ String.intercalate ", " (shownItems items) ++ "]"
  | tuple [item] => "(" ++ shown item ++ ",)"
  | tuple items => "(" ++ String.intercalate ", " (shownItems items) ++ ")"
  | set [] => "set()"
  | set items => "\x7b" ++ String.intercalate ", " (shownItems items) ++ "\x7d"
  | mapping entries => "\x7b" ++ String.intercalate ", " (shownEntries entries) ++ "\x7d"

/-- The quoting texts of several values. -/
def shownItems : List Value → List String
  | [] => []
  | item :: items => shown item :: shownItems items

/-- The entries of a mapping, key and value with a colon between them. -/
def shownEntries : List (Value × Value) → List String
  | [] => []
  | (key, value) :: entries => (shown key ++ ": " ++ shown value) :: shownEntries entries

end

mutual

/-- Whether the texts of a value may be told: no integer in it has more digits than are
written out. -/
def isWritable : Value → Bool
  | int value => value.natAbs < 10 ^ Decimal.digitLimit
  | list items => areWritable items
  | tuple items => areWritable items
  | set items => areWritable items
  | mapping entries => areEntriesWritable entries
  | _ => true

/-- Whether the texts of several values may be told. -/
def areWritable : List Value → Bool
  | [] => true
  | item :: items => isWritable item && areWritable items

/-- Whether the texts of keys and values may be told. -/
def areEntriesWritable : List (Value × Value) → Bool
  | [] => true
  | (key, value) :: entries =>
    isWritable key && isWritable value && areEntriesWritable entries

end

/-- The text of a value where it stands as a name. -/
def display : Value → String
  | text value => value
  | other => shown other

/-- The quoting text of a value, if it may be told. -/
def shown? (value : Value) : Option String :=
  if value.isWritable then some value.shown else none

/-- The text of a value where it stands as a name, if it may be told. -/
def display? (value : Value) : Option String :=
  if value.isWritable then some value.display else none

@[simp] theorem display_text (value : String) : (text value).display = value := rfl

@[simp] theorem display?_text (value : String) : (text value).display? = some value := rfl

/-- Only a text is displayed otherwise than it is shown. -/
theorem display_eq_shown {value : Value} (htext : ∀ content, value ≠ text content) :
    value.display = value.shown := by
  cases value with
  | text content => exact absurd rfl (htext content)
  | _ => rfl

end Palette.Value
