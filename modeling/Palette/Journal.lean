import Palette.Path
import Palette.Value.Shown

/-!
# The journal

What the library has to tell about its work, besides results: one note per event,
with a severity, the part of the library that tells it, and a text.
-/

namespace Palette

/-- How severe a note is. -/
inductive Severity where
  | debug
  | info
  | warning
  | error
  | critical
  deriving DecidableEq, Repr

/-- The rank of a severity. -/
def Severity.rank : Severity → Nat
  | .debug => 10
  | .info => 20
  | .warning => 30
  | .error => 40
  | .critical => 50

/-- The part of the library that tells a note. -/
inductive Teller where
  | options
  | compiler
  | loader
  | processor
  deriving DecidableEq, Repr

/-- An event worth a note. -/
inductive Note where
  /-- An option names no known encoding; another one is used. -/
  | unknownFormat (format : Value) (used : String)
  | compiled (themes warnings : Nat)
  | loaded (path : Path)
  /-- A theme file could not be expanded. -/
  | failed (message : String)
  | warned (message : String)
  deriving Repr

namespace Note

/-- The severity of a note. -/
def severity : Note → Severity
  | unknownFormat _ _ => .warning
  | compiled _ _ => .debug
  | loaded _ => .debug
  | failed _ => .error
  | warned _ => .warning

/-- The part of the library that tells a note. -/
def teller : Note → Teller
  | unknownFormat _ _ => .options
  | compiled _ _ => .compiler
  | loaded _ => .loader
  | failed _ => .processor
  | warned _ => .processor

/-- The text of a note. -/
def text : Note → String
  | unknownFormat format used =>
    "unknown color format " ++ format.shown ++ "; falling back to " ++ used
  | compiled themes warnings =>
    "compiled " ++ toString themes ++ " themes with " ++ toString warnings ++ " warnings"
  | loaded path => "loaded theme data from " ++ path.text
  | failed message => message
  | warned message => message

end Note

end Palette
