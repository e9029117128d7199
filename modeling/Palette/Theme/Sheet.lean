import Palette.Halt
import Palette.Theme.Block
import Palette.Theme.Structure

/-!
# Compiling theme data

All themes are checked before any is compiled.  The rules then stand in the order
of the themes, with a blank line between them, and so do the warnings.
-/

namespace Palette.Theme

/-- Rules for a stylesheet, with the warnings that arose in writing them. -/
structure Sheet where
  blocks : List String
  warnings : List String
  deriving DecidableEq, Repr

namespace Sheet

/-- The rules of several blocks. -/
def ofBlocks (blocks : List Block) : Sheet :=
  ⟨blocks.map Block.text, blocks.flatMap Block.warnings⟩

/-- The rules as one text. -/
def text (sheet : Sheet) : String :=
  String.intercalate "\n\n" sheet.blocks

/-- The note on a sheet. -/
def note (sheet : Sheet) : Note :=
  .compiled sheet.blocks.length sheet.warnings.length

end Sheet

/-- The rules of several themes. -/
def sheetOfThemes (options : Options) (themes : List Theme) : Except Abort Sheet :=
  (themes.mapM (block options)).map Sheet.ofBlocks

/-- The rules of theme data. -/
def sheetOfValue (options : Options) (data : Value) : Except Halt Sheet :=
  match setOfValue data with
  | .error misshape => .error misshape.halt
  | .ok themes => (sheetOfThemes options themes).mapError .abort

end Palette.Theme
