import Palette.Path
import Palette.Value.Shown

/-!
# Faults

A fault is a reported failure: a code, a message, perhaps the path of a file,
details, and a suggestion for the user.  A fault that is built without a message or
a suggestion takes them from its code.
-/

namespace Palette

/-- The standard codes of faults. -/
inductive FaultCode where
  | themePathMissing
  | themeFileNotFound
  | themeFileUnreadable
  | themeFileInvalid
  | themeFileUnsupported
  | themeStructureInvalid
  | configInvalid
  | operationFailed
  deriving DecidableEq, Repr

namespace FaultCode

/-- All codes, in their standard order. -/
def all : List FaultCode :=
  [themePathMissing, themeFileNotFound, themeFileUnreadable, themeFileInvalid,
    themeFileUnsupported, themeStructureInvalid, configInvalid, operationFailed]

/-- The name of a code. -/
def name : FaultCode → String
  | themePathMissing => "THEME_PATH_MISSING"
  | themeFileNotFound => "THEME_FILE_NOT_FOUND"
  | themeFileUnreadable => "THEME_FILE_UNREADABLE"
  | themeFileInvalid => "THEME_FILE_INVALID"
  | themeFileUnsupported => "THEME_FILE_UNSUPPORTED"
  | themeStructureInvalid => "THEME_STRUCTURE_INVALID"
  | configInvalid => "CONFIG_INVALID"
  | operationFailed => "OPERATION_FAILED"

/-- The code of a name. -/
def ofName? (wanted : String) : Option FaultCode :=
  all.find? fun code => code.name == wanted

/-- The standard message of a code. -/
def message : FaultCode → String
  | themePathMissing => "No theme file path was given."
  | themeFileNotFound => "The theme file was not found. Check the path in @theme-tokens."
  | themeFileUnreadable => "The theme file could not be read. Check file permissions."
  | themeFileInvalid => "The theme file could not be parsed."
  | themeFileUnsupported => "Unsupported theme file type. Use .json, .yaml, .yml or .py."
  | themeStructureInvalid => "Invalid theme structure: expected \x7b themes: \x7b ... \x7d \x7d"
  | configInvalid => "Compiler options are invalid."
  | operationFailed => "Operation failed. See details for more information."

@[simp] theorem ofName?_name (code : FaultCode) : ofName? code.name = some code := by
  cases code <;> decide

end FaultCode

/-- What a fault is about. -/
inductive FaultKind where
  /-- Any operation. -/
  | operation
  /-- The shape of theme data. -/
  | shape
  /-- Reading a theme file. -/
  | load
  deriving DecidableEq, Repr

/-- The code that a fault of this kind has unless it is given another one. -/
def FaultKind.standardCode? : FaultKind → Option FaultCode
  | .operation => none
  | .shape => some .themeStructureInvalid
  | .load => some .themeFileInvalid

/-- A reported failure. -/
structure Fault where
  kind : FaultKind
  code : Option FaultCode
  message : String
  path : Option Path
  details : Value.Entries
  suggestion : String
  deriving Repr

namespace Fault

/-- The fault with these parts, where an empty message and an empty suggestion are
taken from the code. -/
def build (kind : FaultKind) (code : Option FaultCode) (message : String) (path : Option Path)
    (details : Value.Entries) (suggestion : String) : Fault :=
  { kind, code, path, details
    message :=
      if message = "" then (code.map FaultCode.message).getD "An unexpected error occurred."
      else message
    suggestion := if suggestion = "" then (code.map FaultCode.message).getD "" else suggestion }

/-- A fault in the shape of theme data. -/
def ofStructure (message : String) : Fault :=
  build .shape (some .themeStructureInvalid) message none [] ""

/-- A fault of a theme file, with the message of what went wrong as its detail. -/
def ofFile (code : FaultCode) (message : String) (path : Option Path) (cause : String) : Fault :=
  build .load (some code) message path [(.text "original", .text cause)] ""

/-- The whole text of a fault: message, path and details. -/
def text (fault : Fault) : String :=
  let shownDetails := fault.details.map fun entry => entry.1.display ++ "=" ++ entry.2.display
  fault.message ++ (fault.path.map fun path => "\nFile: " ++ path.text).getD "" ++
    if fault.details.isEmpty then "" else "\nDetails: " ++ String.intercalate " | " shownDetails

/-- The text for a user: message, a hint if it says more, and the file's name. -/
def userText (fault : Fault) : String :=
  fault.message ++
    (if fault.suggestion = "" ∨ fault.suggestion = fault.message then ""
      else "\n\nHint: " ++ fault.suggestion) ++
    (fault.path.map fun path => "\n\nFile: " ++ path.name).getD ""

/-- The fault as a mapping.  A fault without a code has none. -/
def record? (fault : Fault) : Option Value.Entries :=
  fault.code.map fun code =>
    [(.text "code", .text code.name), (.text "message", .text fault.message),
      (.text "path", (fault.path.map fun path => Value.text path.text).getD .null),
      (.text "details", .mapping fault.details), (.text "suggestion", .text fault.suggestion)]

/-! ## Interface lemmas -/

@[simp] theorem kind_build (kind : FaultKind) (code : Option FaultCode) (message : String)
    (path : Option Path) (details : Value.Entries) (suggestion : String) :
    (build kind code message path details suggestion).kind = kind := rfl

@[simp] theorem code_build (kind : FaultKind) (code : Option FaultCode) (message : String)
    (path : Option Path) (details : Value.Entries) (suggestion : String) :
    (build kind code message path details suggestion).code = code := rfl

@[simp] theorem details_build (kind : FaultKind) (code : Option FaultCode) (message : String)
    (path : Option Path) (details : Value.Entries) (suggestion : String) :
    (build kind code message path details suggestion).details = details := rfl

end Fault

end Palette
