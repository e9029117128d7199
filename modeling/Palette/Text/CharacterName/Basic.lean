import Palette.Text.HexDigit
import Palette.Text.Parts

/-!
# Tables of character names

The names of code points that follow each other are kept as one row (`NameRow`), with a
semicolon between them.  Neighbours often begin alike, so a name may begin with a digit
instead, which stands for that many first words of the name before it: after
`DIGIT ZERO`, `1ONE` is `DIGIT ONE`.  No name begins with a digit of its own, so names
that share nothing are kept as they are (`spell_of_letter`).  A code point without a
name leaves its place empty.
-/

namespace Palette.Text

/-- The names of code points that follow each other. -/
structure NameRow where
  /-- The first code point. -/
  first : Nat
  /-- The names with semicolons between them, on lines of a fair length. -/
  lines : List String

/-- The first words of a name, each with the space after it. -/
def firstWords : Nat → List Char → List Char
  | 0, _ => []
  | count + 1, name =>
    name.takeWhile (· != ' ') ++ ' ' :: firstWords count ((name.dropWhile (· != ' ')).drop 1)

/-- The name that an entry stands for after the name before it. -/
def spell (before : List Char) : List Char → List Char
  | [] => []
  | mark :: rest =>
    if mark.isDigit then firstWords (mark.toNat - '0'.toNat) before ++ rest else mark :: rest

/-- The names of a row's entries from a code point on.  `before` is the name before them. -/
def namesFrom (code : Nat) (before : List Char) : List (List Char) → List (Nat × List Char)
  | [] => []
  | [] :: rest => namesFrom (code + 1) before rest
  | entry :: rest =>
    let name := spell before entry
    (code, name) :: namesFrom (code + 1) name rest

/-- The code points of a row that have names, and their names. -/
def NameRow.names (row : NameRow) : List (Nat × List Char) :=
  namesFrom row.first [] (parts ';' (row.lines.flatMap String.toList))

/-- The code point of a name, if it is in the row. -/
def NameRow.code? (row : NameRow) (name : List Char) : Option Nat :=
  (row.names.find? fun entry => entry.2 == name).map Prod.fst

/-! ## Interface lemmas -/

@[simp] theorem firstWords_zero (name : List Char) : firstWords 0 name = [] := rfl

@[simp] theorem spell_nil (before : List Char) : spell before [] = [] := rfl

/-- An entry that begins with no digit is the name itself. -/
theorem spell_of_letter {before rest : List Char} {mark : Char} (hmark : mark.isDigit = false) :
    spell before (mark :: rest) = mark :: rest := by
  simp [spell, hmark]

/-- The entries of a row name code points from its first one on. -/
theorem le_of_mem_namesFrom {code : Nat} {before : List Char} {entries : List (List Char)}
    {named : Nat × List Char} (hmem : named ∈ namesFrom code before entries) :
    code ≤ named.1 := by
  induction entries generalizing code before with
  | nil => simp [namesFrom] at hmem
  | cons entry rest ih =>
    cases entry with
    | nil => exact Nat.le_of_succ_le (ih hmem)
    | cons mark others =>
      rcases List.mem_cons.1 hmem with rfl | hrest
      · exact Nat.le_refl code
      · exact Nat.le_of_succ_le (ih hrest)

/-- A row gives no code point before its first one. -/
theorem NameRow.first_le_of_code? {row : NameRow} {name : List Char} {code : Nat}
    (hcode : row.code? name = some code) : row.first ≤ code := by
  obtain ⟨named, hfind, rfl⟩ := Option.map_eq_some_iff.1 hcode
  exact le_of_mem_namesFrom (List.mem_of_find?_eq_some hfind)

end Palette.Text
