import Palette.Failure
import Palette.Json.Reader
import Palette.Script.Run
import Palette.Stylesheet.Expansion
import Palette.Text.LowerCase
import Palette.Yaml.Data

/-!
# Theme files

The suffix of a theme file says how its data are written: as JSON, as YAML, or as a
module that defines them.  Loading a file goes through stages, and the first one that
fails decides the fault (`ThemeFile.load?`):

* the suffix must be a known one, whatever is in the file;
* something must be at the path, and not be larger than the limit;
* it must be a file that can be read, and its bytes must be a text;
* the text must be well-formed.

A note tells of a file that was loaded, and of no other one.
-/

namespace Palette

/-- How the data of a theme file are written. -/
inductive ThemeFormat where
  | json
  | yaml
  | module
  deriving DecidableEq, Repr

namespace ThemeFormat

/-- The format of a suffix in lower case. -/
def ofSuffix? (suffix : String) : Option ThemeFormat :=
  match suffix with
  | ".json" => some json
  | ".yaml" => some yaml
  | ".yml" => some yaml
  | ".py" => some module
  | _ => none

end ThemeFormat

namespace ThemeFile

/-- The greatest size of a theme file, in bytes. -/
def sizeLimit : Nat := 1024 * 1024

/-- The suffix of a path, in lower case. -/
def suffix (path : Path) : String :=
  Text.lowerString path.suffix

/-- The format of the file at a path. -/
def format? (path : Path) : Option ThemeFormat :=
  ThemeFormat.ofSuffix? (suffix path)

/-- The fault of a file whose suffix is not a known one. -/
def unsupported (path : Path) : Fault :=
  let shown := if suffix path = "" then "(none)" else suffix path
  .build .load (some .themeFileUnsupported)
    ("Unsupported theme file type " ++ Text.quoted shown ++ ": " ++ path.text) (some path) [] ""

/-- The fault of a file that is too large. -/
def oversized (path : Path) : Fault :=
  .build .load (some .themeFileUnreadable)
    (path.text ++ ": file exceeds max size (" ++ toString sizeLimit ++ " bytes)") (some path) [] ""

/-- The data of a JSON text. -/
def readJson (characters : List Char) : Except Setback Value :=
  match Json.read characters with
  | .ok value => .ok value
  | .error (.malformed flaw position) =>
    .error (.failure (.ofMalformed (Json.placed flaw.message characters position)))
  | .error (.tooManyDigits count) => .error (.abort (.tooManyDigits count))

/-- The data of a YAML text. -/
def readYaml (characters : List Char) : Except Setback Value :=
  match Yaml.read characters with
  | .ok value => .ok value
  | .error (.malformed problem) => .error (.failure (.ofMalformed problem))
  | .error (.impossible abort) => .error (.abort abort)

/-- The data of the file that a path leads to. -/
def read (format : ThemeFormat) (files : FileSystem) (path : Path) : Except Setback Value :=
  match format with
  | .json => do
    readJson (← (files.text path).mapError fun fault => .failure (.ofRead path fault))
  | .yaml => do
    readYaml (← (files.text path).mapError fun fault => .failure (.ofRead path fault))
  | .module => do
    let content ← (files.bytes path).mapError fun fault => .failure (.ofRead path (.system fault))
    Script.readBytes content

/-- The data of the theme file at a path, or how loading it stops short. -/
def load? (files : FileSystem) (path : Path) : Except Halt Value :=
  match format? path with
  | none => .error (.fault (unsupported path))
  | some format =>
    if path.hasNull then .error (.abort .nullInPath)
    else
      match files.size path with
      | .error fault =>
        .error (.fault ((Failure.ofRead path (.system fault)).classify (some path)))
      | .ok size =>
        if sizeLimit < size then .error (.fault (oversized path))
        else (read format files path).mapError (Setback.halt path)

/-- Loads the theme file at a path. -/
def load (files : FileSystem) : Stylesheet.Loader := fun path =>
  match load? files path with
  | .ok value => ([.loaded path], .ok value)
  | .error halt => ([], .error halt)

/-! ## Interface lemmas -/

@[simp] theorem snd_load (files : FileSystem) (path : Path) :
    (load files path).2 = load? files path := by
  unfold load
  split <;> simp_all

/-- There is a note exactly if the file was loaded. -/
theorem fst_load (files : FileSystem) (path : Path) :
    (load files path).1 = if (load? files path).toOption.isSome then [.loaded path] else [] := by
  unfold load
  split <;> simp_all [Except.toOption]

/-- A file whose suffix is not a known one is unsupported, whatever is in it. -/
theorem load?_of_format?_eq_none {files : FileSystem} {path : Path}
    (hformat : format? path = none) :
    load? files path = .error (.fault (unsupported path)) := by
  simp [load?, hformat]

end ThemeFile

end Palette
