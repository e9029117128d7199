import Palette.Journal
import Palette.Text.Blank
import Palette.Text.LowerCase

/-!
# Options

Two sets of options: how custom properties are named and colors written
(`Options`), and besides from which directory theme files are found (`Settings`).
Both are made from loosely typed mappings.  A value of a wrong type counts as
missing, except that a format of a wrong type is an unknown format, which is noted
in the journal.
-/

namespace Palette

open Palette.Text

/-- How custom properties are named and colors written. -/
structure Options where
  namePrefix : String := ""
  format : String := "hex"
  deriving DecidableEq, Repr

namespace Options

/-- The names of the known formats. -/
def formats : List String := ["hex", "hsl", "rgb"]

/-- The format that stands in for a missing or unknown one. -/
def standardFormat : String := "hex"

/-- The trimmed text of a value that is a text, and else nothing. -/
def readPrefix : Option Value → String
  | some (.text text) => trimString text
  | _ => ""

/-- The known format that a value names, in any letter case and with blanks
around it. -/
def knownFormat? : Value → Option String
  | .text text =>
    if lowerString (trimString text) ∈ formats then some (lowerString (trimString text)) else none
  | _ => none

/-- The format of an option, and the notes on an unknown one. -/
def readFormat : Option Value → String × List Note
  | none => (standardFormat, [])
  | some .null => (standardFormat, [])
  | some value =>
    match knownFormat? value with
    | some format => (format, [])
    | none => (standardFormat, [.unknownFormat value standardFormat])

/-- The options of a mapping, with the notes on them. -/
def ofEntries (entries : Value.Entries) : Options × List Note :=
  let (format, notes) := readFormat (Value.lookup entries "format")
  ({ namePrefix := readPrefix (Value.lookup entries "prefix"), format }, notes)

/-- The name of the custom property of a token. -/
def propertyName (options : Options) (token : String) : String :=
  if options.namePrefix = "" then "--" ++ token
  else "--" ++ options.namePrefix ++ "-" ++ token

end Options

/-- From which directory theme files are found, and how they are compiled. -/
structure Settings where
  directory : Path
  options : Options
  deriving DecidableEq, Repr

namespace Settings

/-- The settings without any option, in the directory `current`. -/
def standard (current : Path) : Settings :=
  ⟨current, {}⟩

/-- The directory that an option names.  A value that is no text, or a blank one,
means the directory `current`. -/
def readDirectory (current : Path) : Option Value → Path
  | some (.text text) => if trim text.toList = [] then current else .ofText text
  | _ => current

/-- The settings of a mapping, with the notes on them. -/
def ofEntries (current : Path) (entries : Value.Entries) : Settings × List Note :=
  let (options, notes) := Options.ofEntries entries
  (⟨readDirectory current (Value.lookup entries "root_dir"), options⟩, notes)

end Settings

/-! ## Interface lemmas -/

namespace Options

@[simp] theorem readFormat_none : readFormat none = (standardFormat, []) := rfl

@[simp] theorem readFormat_null : readFormat (some .null) = (standardFormat, []) := rfl

end Options

end Palette
