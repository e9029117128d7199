import Palette.Text.Blank
import Palette.Text.LowerCase

/-!
# Color schemes

A theme may say which schemes it is for, as words in any letter case.  A directive
is valid if it has words and each is `light` or `dark`; it is then written with
each word once, in the order of first occurrence.  One other word makes the whole
directive invalid.
-/

namespace Palette.Scheme

open Palette.Text

/-- The words that a directive may have. -/
def valid : List String := ["light", "dark"]

/-- What a directive comes to. -/
inductive Outcome where
  /-- There is no directive. -/
  | absent
  | declared (schemes : List String)
  | empty
  /-- Some word is not a scheme; holds the trimmed directive. -/
  | invalid (directive : String)
  deriving DecidableEq, Repr

/-- The elements without the repetitions of earlier ones. -/
def firstOccurrences (names : List String) : List String :=
  names.foldl (fun kept name => if name ∈ kept then kept else kept ++ [name]) []

/-- The words of a directive, in lower case. -/
def wordsOf (directive : List Char) : List String :=
  (words directive).map fun word => String.ofList (lower word)

/-- Reads a directive. -/
def read : Option String → Outcome
  | none => .absent
  | some directive =>
    let content := trim directive.toList
    if content = [] then .empty
    else
      let names := wordsOf content
      if names.all fun name => name ∈ valid then .declared (firstOccurrences names)
      else .invalid (String.ofList content)

/-- The declaration that an outcome gives. -/
def Outcome.declaration? : Outcome → Option String
  | .declared schemes => some ("color-scheme: " ++ String.intercalate " " schemes ++ ";")
  | _ => none

/-- The warning that an outcome gives in a theme. -/
def Outcome.warning? (theme : String) : Outcome → Option String
  | .empty => some ("Empty colorScheme in theme \"" ++ theme ++ "\"")
  | .invalid directive =>
    some ("Invalid colorScheme \"" ++ directive ++ "\" in theme \"" ++ theme ++ "\". Allowed: " ++
      String.intercalate ", " valid ++ " (or combinations like \"light dark\")")
  | _ => none

/-! ## Interface lemmas -/

@[simp] theorem read_none : read none = .absent := rfl

/-- Never both a declaration and a warning. -/
theorem declaration?_eq_none_or_warning?_eq_none (theme : String) (outcome : Outcome) :
    outcome.declaration? = none ∨ outcome.warning? theme = none := by
  cases outcome <;> simp [Outcome.declaration?, Outcome.warning?]

end Palette.Scheme
