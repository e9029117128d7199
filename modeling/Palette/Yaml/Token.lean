/-!
# Tokens of a YAML text

The smallest parts of a text.  The starts and ends of block collections, and the
marks of keys, are tokens that stand for indentation and for colons further on.
-/

namespace Palette.Yaml

/-- A line of instructions before a document. -/
inductive Directive where
  | version (major minor : Nat)
  /-- What a handle at the start of a tag stands for. -/
  | handle (handle expansion : String)
  | other
  deriving DecidableEq, Repr

/-- A tag as it is written. -/
structure WrittenTag where
  handle : Option String
  suffix : String
  deriving DecidableEq, Repr

/-- A smallest part of a text. -/
inductive Token where
  | directive (directive : Directive)
  | documentStart
  | documentEnd
  | streamEnd
  | blockSequenceStart
  | blockMappingStart
  | blockEnd
  | flowSequenceStart
  | flowSequenceEnd
  | flowMappingStart
  | flowMappingEnd
  | blockEntry
  | flowEntry
  | key
  | value
  | alias (name : String)
  | anchor (name : String)
  | tag (tag : WrittenTag)
  | scalar (text : String) (isPlain : Bool)
  deriving DecidableEq, Repr

end Palette.Yaml
