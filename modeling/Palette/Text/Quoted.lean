import Palette.Text.HexDigit
import Palette.Text.Visible

/-!
# Quoted text

How a text or a sequence of bytes is shown inside a message: between quotes,
with everything that cannot be seen escaped.  Single quotes are used, unless the
text itself has single quotes and no double quote.
-/

namespace Palette.Text

/-- The quote that a text with these characters is shown in. -/
def quoteFor (characters : List Char) : Char :=
  if '\'' ∈ characters ∧ '"' ∉ characters then '"' else '\''

/-- A character as it stands between two `quote`s. -/
def escaped (quote character : Char) : List Char :=
  if character = quote ∨ character = '\\' then ['\\', character]
  else if character = '\n' then ['\\', 'n']
  else if character = '\r' then ['\\', 'r']
  else if character = '\t' then ['\\', 't']
  else if isVisible character then [character]
  else
    let code := character.toNat
    if code < 0x100 then '\\' :: 'x' :: hexDigits 2 code
    else if code < 0x10000 then '\\' :: 'u' :: hexDigits 4 code
    else '\\' :: 'U' :: hexDigits 8 code

/-- A text between quotes. -/
def quoted (text : String) : String :=
  let characters := text.toList
  let quote := quoteFor characters
  String.ofList (quote :: characters.flatMap (escaped quote) ++ [quote])

/-- A byte as it stands between two `quote`s: the visible ASCII characters as
themselves, all else as an escape. -/
def escapedByte (quote : Char) (byte : UInt8) : List Char :=
  let character := Char.ofNat byte.toNat
  if byte.toNat < 0x7F then escaped quote character
  else '\\' :: 'x' :: hexDigits 2 byte.toNat

/-- A sequence of bytes between quotes, with a mark in front that tells it from
a text. -/
def quotedBytes (bytes : List UInt8) : String :=
  let quote := quoteFor (bytes.map fun byte => Char.ofNat byte.toNat)
  String.ofList ('b' :: quote :: bytes.flatMap (escapedByte quote) ++ [quote])

end Palette.Text
