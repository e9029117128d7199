import Palette.Abort
import Palette.Color.Encoding
import Palette.Options
import Palette.Scheme
import Palette.Theme.Basic

/-!
# The block of a theme

A theme becomes one rule: its name as a class, the declaration of its color scheme
if there is a valid one, and one custom property for each leaf whose color can be
read.  Every other leaf becomes a warning, so each leaf is accounted for once, in
order: `Leaf.resolve` decides for one leaf, and the block keeps the two kinds of
results apart.
-/

namespace Palette

/-- What becomes of a leaf. -/
inductive LeafResult where
  /-- The color in the wanted encoding. -/
  | encoded (color : String)
  | unreadable
  deriving DecidableEq, Repr

namespace Leaf

/-- Whether a leaf's color can be read, and how it is written.  What is no color has a
text that can be told. -/
def resolve (encoding : Encoding) (leaf : Leaf) : Except Abort LeafResult :=
  if leaf.color.isWritable then
    match Color.resolveValue leaf.color encoding with
    | .ok color => .ok (.encoded color)
    | .error (.blankDigits pair) => .error (.badInteger 16 pair)
    | .error _ => .ok .unreadable
  else .error .unwritableInteger

/-- The line that declares a leaf's color. -/
def line (options : Options) (leaf : Leaf) (color : String) : String :=
  "  " ++ options.propertyName leaf.token ++ ": " ++ color ++ ";"

/-- The warning on a leaf whose color cannot be read. -/
def warning (leaf : Leaf) : String :=
  "Invalid color: " ++ leaf.color.display ++ " for " ++ leaf.location

/-- The line of a leaf, if it has one. -/
def line? (options : Options) (leaf : Leaf) : LeafResult → Option String
  | .encoded color => some (leaf.line options color)
  | .unreadable => none

/-- The warning on a leaf, if there is one. -/
def warning? (leaf : Leaf) : LeafResult → Option String
  | .encoded _ => none
  | .unreadable => some leaf.warning

end Leaf

/-- A rule and the warnings that arose in writing it. -/
structure Block where
  text : String
  warnings : List String
  deriving DecidableEq, Repr

namespace Theme

/-- The leaves, each with what becomes of it. -/
def resolved (encoding : Encoding) (leaves : List Leaf) :
    Except Abort (List (Leaf × LeafResult)) :=
  leaves.mapM fun leaf => (leaf.resolve encoding).map fun result => (leaf, result)

/-- The lines of a rule, given its scheme and its leaves with what became of them. -/
def blockLines (options : Options) (name : String) (scheme : Scheme.Outcome)
    (results : List (Leaf × LeafResult)) : List String :=
  ("." ++ name ++ " \x7b") ::
    (scheme.declaration?.toList.map fun declaration => "  " ++ declaration) ++
    (results.filterMap fun (leaf, result) => leaf.line? options result) ++ ["\x7d"]

/-- The warnings of a rule, given the same. -/
def blockWarnings (name : String) (scheme : Scheme.Outcome)
    (results : List (Leaf × LeafResult)) : List String :=
  (scheme.warning? name).toList ++ results.filterMap fun (leaf, result) => leaf.warning? result

/-- The rule of a theme. -/
def block (options : Options) (theme : Theme) : Except Abort Block := do
  let results ← resolved (.ofName options.format) theme.leaves
  let scheme := Scheme.read theme.scheme
  return {
    text := String.intercalate "\n" (blockLines options theme.name scheme results)
    warnings := blockWarnings theme.name scheme results }

end Theme

end Palette
