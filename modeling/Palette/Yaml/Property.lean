import Palette.Binary.Decimal
import Palette.Text.Utf8
import Palette.Yaml.Scalar
import Palette.Yaml.Token

/-!
# Directives, anchors and tags

The parts of a YAML text that say something about a document or a node: directives
on lines of their own, anchors and aliases with their names, and tags, which are a
handle with a suffix or stand between angle brackets.
-/

namespace Palette.Yaml

/-! ## Anchors and aliases -/

/-- The characters that may follow the name of an anchor or an alias, besides
blanks. -/
def anchorEnds : List Char := ['?', ':', ',', ']', '\x7d', '%', '@', '\x60']

/-- Reads the name after the sign of an anchor or an alias. -/
def readAnchor (cursor : Cursor) : Except Fault (String × Cursor) :=
  let (name, after) := (cursor.forward 1).takeWhile isNameCharacter
  if name = [] then refuse "expected alphabetic or numeric character"
  else if isBlankOrEnd after.peek || anchorEnds.contains after.peek then
    .ok (String.ofList name, after)
  else refuse "expected alphabetic or numeric character"

/-! ## Tags -/

/-- The characters of a tag's suffix. -/
def isUriCharacter (character : Char) : Bool :=
  character.isAlphanum || "-;/?:@&=+$,_.!~*'()[]".toList.contains character

/-- Reads bytes written as a percent sign and two digits each. -/
def uriBytes : Nat → List UInt8 → Cursor → Except Fault (List UInt8 × Cursor)
  | 0, done, cursor => .ok (done.reverse, cursor)
  | fuel + 1, done, cursor =>
    if cursor.peek = '%' then
      let digits := (cursor.rest.drop 1).take 2
      if digits.length = 2 ∧ digits.all Text.isHexDigit then
        uriBytes fuel (UInt8.ofNat (Text.hexValue digits) :: done) (cursor.forward 3)
      else refuse "expected URI escape sequence of 2 hexadecimal numbers"
    else .ok (done.reverse, cursor)

/-- Reads the suffix of a tag, which is not empty. -/
def readUri : Nat → List Char → Cursor → Except Fault (List Char × Cursor)
  | 0, _, _ => refuse "expected URI"
  | fuel + 1, done, cursor =>
    let (run, after) := cursor.takeWhile isUriCharacter
    let read := done ++ run
    if after.peek = '%' then do
      let (bytes, next) ← uriBytes (after.left + 1) [] after
      match Text.decodeUtf8 bytes with
      | .error _ => refuse "invalid bytes in URI"
      | .ok characters => readUri fuel (read ++ characters) next
    else if read = [] then refuse "expected URI"
    else .ok (read, after)

/-- Reads a whole suffix. -/
def readSuffix (cursor : Cursor) : Except Fault (String × Cursor) :=
  (readUri (cursor.left + 1) [] cursor).map fun (characters, after) =>
    (String.ofList characters, after)

/-- Reads a handle: an exclamation mark, or a name between two of them. -/
def readHandle (cursor : Cursor) : Except Fault (String × Cursor) :=
  if cursor.peek = '!' then
    let (name, after) := (cursor.forward 1).takeWhile isNameCharacter
    if after.peek = '!' then .ok ("!" ++ String.ofList name ++ "!", after.forward 1)
    else if name = [] ∧ after.peek = ' ' then .ok ("!", after)
    else refuse "expected '!'"
  else refuse "expected '!'"

/-- Reads the tag whose exclamation mark stands here. -/
def readTag (cursor : Cursor) : Except Fault (WrittenTag × Cursor) := do
  let next := cursor.peekAt 1
  let (tag, after) ←
    if next = '<' then do
      let (suffix, after) ← readSuffix (cursor.forward 2)
      if after.peek = '>' then pure (WrittenTag.mk none suffix, after.forward 1)
      else refuse "expected '>'"
    else if isBlankOrEnd next then pure (WrittenTag.mk none "!", cursor.forward 1)
    else do
      let written := (cursor.rest.drop 1).takeWhile fun character => !isSpaceOrEnd character
      let (handle, begun) ←
        if '!' ∈ written then readHandle cursor else pure ("!", cursor.forward 1)
      let (suffix, after) ← readSuffix begun
      pure (WrittenTag.mk (some handle) suffix, after)
  if isSpaceOrEnd after.peek then return (tag, after) else refuse "expected ' '"

/-! ## Directives -/

/-- Reads a number of a version. -/
def readVersionNumber (cursor : Cursor) : Except Fault (Nat × Cursor) :=
  let (digits, after) := cursor.takeWhile Char.isDigit
  if digits = [] then refuse "expected a digit"
  else if Decimal.digitLimit < digits.length then
    .error (.impossible (.tooManyDigits digits.length))
  else .ok (Decimal.digitsValue digits, after)

/-- Reads a version: two numbers with a point between them. -/
def readVersion (cursor : Cursor) : Except Fault (Directive × Cursor) := do
  let (major, afterMajor) ← readVersionNumber cursor.skipSpaces
  if afterMajor.peek = '.' then
    let (minor, after) ← readVersionNumber (afterMajor.forward 1)
    if isSpaceOrEnd after.peek then return (.version major minor, after)
    else refuse "expected a digit or ' '"
  else refuse "expected a digit or '.'"

/-- Reads what a handle stands for. -/
def readHandleExpansion (cursor : Cursor) : Except Fault (Directive × Cursor) := do
  let (handle, afterHandle) ← readHandle cursor.skipSpaces
  if afterHandle.peek = ' ' then
    let (expansion, after) ← readSuffix afterHandle.skipSpaces
    if isSpaceOrEnd after.peek then return (.handle handle expansion, after)
    else refuse "expected ' '"
  else refuse "expected ' '"

/-- Reads the directive whose percent sign stands here, to the end of its line. -/
def readDirective (cursor : Cursor) : Except Fault (Directive × Cursor) := do
  let (name, afterName) := (cursor.forward 1).takeWhile isNameCharacter
  if name = [] then refuse "expected alphabetic or numeric character"
  else if isSpaceOrEnd afterName.peek then
    let (directive, after) ←
      match String.ofList name with
      | "YAML" => readVersion afterName
      | "TAG" => readHandleExpansion afterName
      | _ => pure (.other, afterName.skipWhile fun character => !isBreak character)
    let line := after.skipSpaces.skipComment
    if isBreakOrEnd line.peek then return (directive, line.lineBreak.2)
    else refuse "expected a comment or a line break"
  else refuse "expected alphabetic or numeric character"

end Palette.Yaml
