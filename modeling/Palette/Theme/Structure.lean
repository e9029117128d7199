import Palette.Halt
import Palette.Theme.Basic
import Palette.Value.Shown

/-!
# The structure of theme data

Theme data is a mapping that has, under `themes`, a mapping from names to themes.
Each theme is a mapping that has, under `colors`, a mapping from tokens to colors.
The first part that has another shape is the fault that is reported.

A color is a text or a mapping of shades; tokens of any other kind, shades that are
no texts and a directive that is no text are left out as if they were not there.

Names of themes, tokens and shades may be any values that are keys, and stand for
their texts.  A name whose text cannot be told ends the whole reading.
-/

namespace Palette.Theme

/-- A way in which theme data has not the expected shape. -/
inductive Misshape where
  /-- The data has no themes. -/
  | noThemes
  /-- The themes are no mapping; holds what they are. -/
  | themesNoMapping (kind : String)
  | themeNoMapping (name : String)
  | colorsNoMapping (name : String)
  /-- A name has no text that can be told. -/
  | unwritableName
  deriving DecidableEq, Repr

/-- The message of a misshape. -/
def Misshape.message : Misshape → String
  | .noThemes => "Invalid theme structure: expected \x7b themes: \x7b ... \x7d \x7d"
  | .themesNoMapping kind =>
    "Invalid theme structure: 'themes' must be an object, got " ++ kind
  | .themeNoMapping name => "Invalid theme \"" ++ name ++ "\": expected an object"
  | .colorsNoMapping name =>
    "Invalid theme \"" ++ name ++ "\": expected \x7b colors: \x7b ... \x7d \x7d"
  | .unwritableName => Abort.unwritableInteger.message

/-- How a misshape stops the reading: with a fault that reports it, but for a name
without a text. -/
def Misshape.halt : Misshape → Halt
  | .unwritableName => .abort .unwritableInteger
  | misshape => .fault (.ofStructure misshape.message)

/-- The text of a name. -/
def nameOf (key : Value) : Except Misshape String :=
  match key.display? with
  | some name => .ok name
  | none => .error .unwritableName

/-- The shades that are texts. -/
def readShades (entries : Value.Entries) : Except Misshape (List (String × Value)) :=
  (entries.filter fun entry => entry.2.text?.isSome).mapM fun (shade, color) =>
    (nameOf shade).map fun name => (name, color)

/-- The color that a value spells, if it has the shape of one. -/
def readColor? : Value → Except Misshape (Option TokenColor)
  | .text text => .ok (some (.flat (.text text)))
  | .mapping entries => (readShades entries).map fun shades => some (.shaded shades)
  | _ => .ok none

/-- The token that an entry of the colors spells, if it has the shape of one. -/
def readToken? (entry : Value × Value) : Except Misshape (Option (String × TokenColor)) := do
  match ← readColor? entry.2 with
  | none => return none
  | some color => return some (← nameOf entry.1, color)

/-- The tokens that have the shape of one. -/
def readTokens (entries : Value.Entries) : Except Misshape (List (String × TokenColor)) :=
  (entries.mapM readToken?).map fun tokens => tokens.filterMap id

/-- The theme that an entry of the themes spells. -/
def ofEntry (entry : Value × Value) : Except Misshape Theme := do
  let name ← nameOf entry.1
  match entry.2.entries? with
  | none => throw (.themeNoMapping name)
  | some definition =>
    match (Value.lookup definition "colors").bind Value.entries? with
    | none => throw (.colorsNoMapping name)
    | some colors =>
      return {
        name
        scheme := (Value.lookup definition "colorScheme").bind Value.text?
        tokens := ← readTokens colors }

/-- The themes of theme data, in order, or the first misshape. -/
def setOfValue (data : Value) : Except Misshape (List Theme) :=
  match data.entries?.bind fun entries => Value.lookup entries "themes" with
  | none => .error .noThemes
  | some .null => .error .noThemes
  | some themes =>
    match themes.entries? with
    | none => .error (.themesNoMapping themes.kind)
    | some entries => entries.mapM ofEntry

end Palette.Theme
