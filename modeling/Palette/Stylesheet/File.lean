import Palette.ThemeFile

/-!
# Stylesheets among files

Expanding a stylesheet whose theme files lie in a tree of files, and one that lies
there itself.
-/

namespace Palette.Stylesheet

/-- Expands a stylesheet with theme files from a tree of files. -/
def expandAmong (files : FileSystem) (settings : Settings) (source text : String) :
    List Note × Except Abort Result :=
  expand (ThemeFile.load files) files.current settings source text

/-- Expands the stylesheet in a file, whose path is the name of its source. -/
def expandFile (files : FileSystem) (settings : Settings) (path : Path) :
    List Note × Except Halt Result :=
  if path.hasNull then ([], .error (.abort .nullInPath))
  else
    match files.text path with
    | .error fault => ([], .error (.fault ((Failure.ofRead path fault).classify (some path))))
    | .ok characters =>
      let (notes, result) := expandAmong files settings path.text (String.ofList characters)
      (notes, result.mapError .abort)

end Palette.Stylesheet
