import Palette.Script.Lexeme
import Palette.Text.CodePage
import Palette.Text.Utf8

/-!
# The source of a module

The bytes of a module are its source in some coding.  A comment that stands alone on
the first line may declare the coding, and one on the second line may if the first one
holds nothing but blanks and a comment.  Without a declaration the coding is UTF-8, and
a mark of the byte order at the start allows no other one.
-/

namespace Palette.Script

open Palette.Text

/-- Why bytes are no source. -/
inductive SourceFault where
  | nullCharacter
  /-- The coding is unknown, or the bytes stand for no characters in it. -/
  | unreadable
  deriving DecidableEq, Repr

/-- A way in which characters are coded as bytes. -/
inductive Coding where
  | utf8
  | page (page : CodePage)
  deriving DecidableEq, Repr

namespace Coding

/-- The beginning of a name, as far as it tells the two usual codings from others. -/
def nameStart (name : List Char) : String :=
  String.ofList ((name.take 12).map fun character =>
    if character = '_' then '-' else character.toLower)

/-- Whether the beginning of a name is one of these, alone or before a hyphen. -/
def isVariantOf (names : List String) (start : String) : Bool :=
  names.any fun name => start == name || (name ++ "-").toList.isPrefixOf start.toList

/-- Whether a name is a usual one of UTF-8. -/
def isUsualUtf8 (name : List Char) : Bool :=
  isVariantOf ["utf-8"] (nameStart name)

/-- The coding of a name. -/
def ofName? (name : List Char) : Option Coding :=
  if isUsualUtf8 name || ["cp65001", "u8", "utf", "utf8", "utf8_ucs2", "utf8_ucs4"].contains
      (codingName name) then some utf8
  else if isVariantOf ["latin-1", "iso-8859-1", "iso-latin-1"] (nameStart name) then
    (CodePage.ofName? "latin-1".toList).map page
  else (CodePage.ofName? name).map page

/-- The characters of bytes, if they stand for some. -/
def decode? (coding : Coding) (bytes : List UInt8) : Option (List Char) :=
  match coding with
  | utf8 => (decodeUtf8 bytes).toOption
  | page codePage => codePage.decode? bytes

end Coding

/-! ## Declarations -/

/-- A character of the name in a declaration. -/
def isCodingCharacter (character : Char) : Bool :=
  character.isAlphanum || character == '-' || character == '_' || character == '.'

/-- The name that a declaration at the start gives, if one stands there. -/
def declarationAt? (characters : List Char) : Option (List Char) :=
  match characters.drop 6 with
  | mark :: rest =>
    let name := (rest.dropWhile fun character => character == ' ' || character == '\t').takeWhile
      isCodingCharacter
    if "coding".toList.isPrefixOf characters ∧ (mark = ':' ∨ mark = '=') ∧ name ≠ [] then some name
    else none
  | [] => none

/-- The name that the first declaration among characters gives. -/
def declaration? : List Char → Option (List Char)
  | [] => none
  | character :: rest => (declarationAt? (character :: rest)).or (declaration? rest)

/-- The name that a line declares, which it does in a comment that stands alone. -/
def lineDeclaration? (line : List Char) : Option (List Char) :=
  match line.dropWhile isLineBlank with
  | '#' :: comment => declaration? comment
  | _ => none

/-- Whether a line holds nothing but blanks and a comment. -/
def isBlankLine (line : List Char) : Bool :=
  match line.dropWhile isLineBlank with
  | [] => true
  | first :: _ => first == '#'

/-- The name of the coding that a source declares. -/
def declaredCoding? (characters : List Char) : Option (List Char) :=
  match parts '\n' characters with
  | [] => none
  | first :: others =>
    (lineDeclaration? first).or
      (if isBlankLine first then others.head?.bind lineDeclaration? else none)

/-! ## Reading -/

/-- The coding of bytes without a mark of the byte order. -/
def codingOf? (hasMark : Bool) (bytes : List UInt8) : Option Coding :=
  match declaredCoding? (lineFeeds (bytes.map fun byte => Char.ofNat byte.toNat)) with
  | none => some .utf8
  | some name =>
    if hasMark then (if Coding.isUsualUtf8 name then some .utf8 else none) else Coding.ofName? name

/-- The characters of a module's bytes, with every line end as a line feed. -/
def sourceOf (bytes : List UInt8) : Except SourceFault (List Char) :=
  if bytes.contains 0 then .error .nullCharacter
  else
    let hasMark := [0xEF, 0xBB, 0xBF].isPrefixOf bytes
    let content := if hasMark then bytes.drop 3 else bytes
    match (codingOf? hasMark content).bind fun coding => coding.decode? content with
    | some characters => .ok (lineFeeds characters)
    | none => .error .unreadable

end Palette.Script
