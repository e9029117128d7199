import Palette.Stylesheet.Piece
import Palette.Theme.Sheet

/-!
# Expanding a stylesheet

Each invocation names a theme file and is replaced by the file's rules.  One that
names none is left in place with a warning, and so is one whose file cannot be
loaded or compiled, with a fault.  `Outcome` is what becomes of one invocation; the
stylesheet, the warnings, the faults and the dependencies are all read off the list
of pieces with their outcomes, so they cannot disagree.

The functions take what is needed of the outside as an argument: how a file is
loaded from an absolute path, and the current directory.  An abort ends the
expansion; the notes told until then are kept.
-/

namespace Palette.Stylesheet

open Palette.Text

/-- What becomes of an invocation. -/
inductive Outcome where
  | missingPath
  | failed (path : Path) (fault : Fault)
  | expanded (path : Path) (sheet : Theme.Sheet)
  deriving Repr

/-- How a theme file is loaded: what there is to tell, and the data or why there is
none. -/
abbrev Loader := Path → List Note × Except Halt Value

/-- The path that an invocation's parameter names: trimmed, and without quotes. -/
def pathText (parameter : List Char) : List Char :=
  (trim parameter).filter fun character => character != '"' && character != '\''

/-- The warning on an invocation that names no path. -/
def missingPathWarning : String :=
  "Missing path in " ++ String.ofList ruleName

/-- The fault of an invocation, made of the fault of its file. -/
def invocationFault (path : Path) (fault : Fault) : Fault :=
  .build fault.kind fault.code
    ("Failed to load or parse theme file: " ++ path.text ++ "\n" ++ fault.message) (some path)
    fault.details ""

/-- Loads and compiles a theme file. -/
def compileFile (load : Loader) (options : Options) (path : Path) :
    List Note × Except Halt Theme.Sheet :=
  match load path with
  | (notes, .error halt) => (notes, .error halt)
  | (notes, .ok data) =>
    match Theme.sheetOfValue options data with
    | .error halt => (notes, .error halt)
    | .ok sheet => (notes ++ [sheet.note], .ok sheet)

/-- What becomes of an invocation with this parameter. -/
def invoke (load : Loader) (current : Path) (settings : Settings) (parameter : List Char) :
    List Note × Except Abort Outcome :=
  let name := pathText parameter
  if name = [] then ([], .ok .missingPath)
  else
    let path := Path.resolve current (settings.directory.join (.ofText (String.ofList name)))
    match compileFile load settings.options path with
    | (notes, .ok sheet) => (notes, .ok (.expanded path sheet))
    | (notes, .error (.abort abort)) => (notes, .error abort)
    | (notes, .error (.fault fault)) =>
      let reported := invocationFault path fault
      (notes ++ [.failed reported.message], .ok (.failed path reported))

/-- A piece and, if it is an invocation, what became of it. -/
abbrev Expanded := Piece × Option Outcome

/-- The pieces with what becomes of each, up to the first abort. -/
def invokeAll (load : Loader) (current : Path) (settings : Settings) :
    List Piece → List Note × Except Abort (List Expanded)
  | [] => ([], .ok [])
  | .text characters :: rest =>
    match invokeAll load current settings rest with
    | (notes, result) => (notes, result.map ((.text characters, none) :: ·))
  | .invocation span parameter :: rest =>
    match invoke load current settings parameter with
    | (notes, .error abort) => (notes, .error abort)
    | (notes, .ok outcome) =>
      match invokeAll load current settings rest with
      | (later, result) =>
        (notes ++ later, result.map ((.invocation span parameter, some outcome) :: ·))

namespace Outcome

/-- The rules that replace an invocation, if there are any. -/
def replacement? : Outcome → Option String
  | expanded _ sheet => some sheet.text
  | _ => none

/-- The file that an invocation depends on. -/
def dependency? : Outcome → Option Path
  | missingPath => none
  | failed path _ => some path
  | expanded path _ => some path

/-- The fault of an invocation. -/
def fault? : Outcome → Option Fault
  | failed _ fault => some fault
  | _ => none

/-- The warnings on the rule itself. -/
def ruleWarnings : Outcome → List String
  | missingPath => [missingPathWarning]
  | _ => []

/-- The warnings on the theme file. -/
def themeWarnings : Outcome → List String
  | expanded _ sheet => sheet.warnings
  | _ => []

end Outcome

/-- The characters that stand for a piece in the expanded stylesheet. -/
def Expanded.characters (expanded : Expanded) : List Char :=
  match expanded.2.bind Outcome.replacement? with
  | some rules => rules.toList
  | none => expanded.1.characters

/-- The outcomes of the invocations, in order. -/
def outcomes (expanded : List Expanded) : List Outcome :=
  expanded.filterMap Prod.snd

/-- An expanded stylesheet. -/
structure Result where
  text : String
  source : String
  warnings : List String
  faults : List Fault
  dependencies : List Path
  deriving Repr

namespace Result

/-- The name of a stylesheet without one. -/
def standardSource : String := "virtual.css"

/-- The result of a stylesheet's pieces with what became of them.  Warnings on
rules stand before those on theme files. -/
def ofExpanded (source : String) (expanded : List Expanded) : Result :=
  let outcomes := outcomes expanded
  { text := String.ofList (expanded.flatMap Expanded.characters)
    source := if source = "" then standardSource else source
    warnings := outcomes.flatMap Outcome.ruleWarnings ++ outcomes.flatMap Outcome.themeWarnings
    faults := outcomes.filterMap Outcome.fault?
    dependencies := outcomes.filterMap Outcome.dependency? }

/-- Whether every invocation with a path was expanded. -/
def isComplete (result : Result) : Bool :=
  result.faults.isEmpty

end Result

/-- Expands a stylesheet.  An empty source name stands for none. -/
def expand (load : Loader) (current : Path) (settings : Settings) (source text : String) :
    List Note × Except Abort Result :=
  match invokeAll load current settings (cut text.toList) with
  | (notes, .error abort) => (notes, .error abort)
  | (notes, .ok expanded) =>
    let result := Result.ofExpanded source expanded
    (notes ++ result.warnings.map .warned, .ok result)

end Palette.Stylesheet
