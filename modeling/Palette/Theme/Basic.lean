import Palette.Value.Basic

/-!
# Themes

A theme has a name, perhaps a directive for color schemes, and tokens in the order
in which they were declared.  A token has one color, or one color for each of its
shades.  Tokens and shades may repeat.

A color is kept as it was written.  Theme data gives texts alone; a theme that is put
together by hand may hold any value, which then is no color.

The leaves of a theme (`Theme.leaves`) are its colors in order, each with the name of
the token it stands for and the place it was written at.
-/

namespace Palette

/-- The color of a token. -/
inductive TokenColor where
  | flat (color : Value)
  /-- Shades with their colors, in order. -/
  | shaded (shades : List (String × Value))
  deriving Repr

/-- A named set of color tokens. -/
structure Theme where
  name : String
  scheme : Option String
  tokens : List (String × TokenColor)
  deriving Repr

/-- A color of a theme. -/
structure Leaf where
  /-- The token, with its shade, under which the color is declared. -/
  token : String
  color : Value
  /-- Where the color was written, for warnings. -/
  location : String
  deriving Repr

namespace Theme

/-- The shade that stands for the token itself. -/
def plainShade : String := "DEFAULT"

/-- The token under which a shade is declared. -/
def shadeToken (token shade : String) : String :=
  if shade = plainShade then token else token ++ "-" ++ shade

/-- The leaves of one token. -/
def tokenLeaves (name token : String) : TokenColor → List Leaf
  | .flat color => [⟨token, color, name ++ "." ++ token⟩]
  | .shaded shades =>
    shades.map fun (shade, color) =>
      ⟨shadeToken token shade, color, name ++ "." ++ token ++ "." ++ shade⟩

/-- The leaves of a theme, in order. -/
def leaves (theme : Theme) : List Leaf :=
  theme.tokens.flatMap fun (token, color) => tokenLeaves theme.name token color

/-! ## Interface lemmas -/

@[simp] theorem shadeToken_plainShade (token : String) : shadeToken token plainShade = token := by
  simp [shadeToken]

theorem shadeToken_of_ne {shade : String} (token : String) (hne : shade ≠ plainShade) :
    shadeToken token shade = token ++ "-" ++ shade := by
  simp [shadeToken, hne]

/-- A token with shades has one leaf for each. -/
@[simp] theorem length_tokenLeaves_shaded (name token : String) (shades : List (String × Value)) :
    (tokenLeaves name token (.shaded shades)).length = shades.length := by
  simp [tokenLeaves]

@[simp] theorem tokenLeaves_flat (name token : String) (color : Value) :
    tokenLeaves name token (.flat color) = [⟨token, color, name ++ "." ++ token⟩] := rfl

end Theme

end Palette
