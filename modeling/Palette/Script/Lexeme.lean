import Palette.Binary.Decimal
import Palette.Text.CharacterName
import Palette.Text.HexDigit
import Palette.Text.NameCharacter
import Palette.Text.UsualForm
import Palette.Value.Basic

/-!
# Lexemes of a theme module

A module's text is read as lexemes: names, keywords, literals, marks and line ends.
Blanks and comments separate lexemes; inside brackets and after a backslash a line goes
on.  A line that is indented is refused, since no statement of a module stands inside
another one.

Names that have one usual form are one name.  Keywords are so only as they are spelled.
-/

namespace Palette.Script

open Palette.Text

/-- A smallest part of a module's text. -/
inductive Lexeme where
  | name (name : String)
  | keyword (word : String)
  | number (value : Value)
  | text (value : String)
  | bytes (value : List UInt8)
  | mark (mark : Char)
  | lineEnd
  deriving Repr

/-! ## Numbers -/

/-- The digits without single low lines between them; a low line elsewhere is
refused. -/
def withoutLowLines? : List Char → Option (List Char)
  | [] => some []
  | ['_'] => none
  | '_' :: '_' :: _ => none
  | character :: '_' :: rest =>
    if character = '_' then none
    else (withoutLowLines? rest).bind fun digits =>
      if digits = [] then none else some (character :: digits)
  | character :: rest => (withoutLowLines? rest).map (character :: ·)

/-- The digits of a group that is not empty. -/
def digitGroup? (isDigit : Char → Bool) (characters : List Char) : Option (List Char) :=
  if characters.head? = some '_' then none
  else
    (withoutLowLines? characters).bind fun digits =>
      if digits ≠ [] ∧ digits.all isDigit then some digits else none

/-- The value of digits in a base. -/
def valueInBase (base : Nat) (digits : List Char) : Nat :=
  digits.foldl (fun value digit => base * value + (hexDigit? digit).getD 0) 0

/-- The integer of digits after a mark of their base. -/
def basedInteger? (base : Nat) (digits : List Char) : Option Value :=
  let digits := if digits.head? = some '_' then digits.drop 1 else digits
  let isDigit (character : Char) := ((hexDigit? character).any fun value => value < base)
  (digitGroup? isDigit digits).map fun digits => .int (valueInBase base digits)

/-- The integer or number that decimal characters spell.  An integer has no needless
zeros in front, and a number has a point or an exponent. -/
def decimalNumber? (characters : List Char) : Option Value :=
  let isExponentMark (character : Char) := character == 'e' || character == 'E'
  let mantissa := characters.takeWhile fun character => !isExponentMark character
  let exponent := characters.dropWhile fun character => !isExponentMark character
  let whole := mantissa.takeWhile (· != '.')
  let pointed := mantissa.dropWhile (· != '.')
  let fraction := pointed.drop 1
  let group (digits : List Char) : Option (List Char) :=
    if digits = [] then some [] else digitGroup? Char.isDigit digits
  if pointed = [] ∧ exponent = [] then
    (digitGroup? Char.isDigit whole).bind fun digits =>
      if digits.head? = some '0' ∧ digits.any (· != '0') then none
      else if Decimal.digitLimit < digits.length then none
      else some (.int (Decimal.digitsValue digits))
  else do
    let whole ← group whole
    let fraction ← group fraction
    let exponent ←
      match exponent with
      | [] => some []
      | mark :: rest =>
        let sign := rest.takeWhile fun character => character == '+' || character == '-'
        (digitGroup? Char.isDigit (rest.drop sign.length)).map fun digits => mark :: sign ++ digits
    let numeral := whole ++ (if pointed = [] then [] else '.' :: fraction) ++ exponent
    let decimal ← Decimal.ofText? numeral
    return .float (decimal.toBinary .double)

/-- The number that the characters of a numeral spell. -/
def numberOf? (characters : List Char) : Option Value :=
  match characters with
  | '0' :: 'x' :: digits => basedInteger? 16 digits
  | '0' :: 'X' :: digits => basedInteger? 16 digits
  | '0' :: 'o' :: digits => basedInteger? 8 digits
  | '0' :: 'O' :: digits => basedInteger? 8 digits
  | '0' :: 'b' :: digits => basedInteger? 2 digits
  | '0' :: 'B' :: digits => basedInteger? 2 digits
  | _ => decimalNumber? characters

/-- The characters of the numeral at the start of a text: letters, digits, low lines
and points, and a sign right after an exponent's mark. -/
def numeralAt (afterMark isBased : Bool) : List Char → List Char
  | [] => []
  | character :: rest =>
    if character.isAlphanum || character == '_' || character == '.' then
      character :: numeralAt ((character == 'e' || character == 'E') && !isBased) isBased rest
    else if afterMark && (character == '+' || character == '-') then
      character :: numeralAt false isBased rest
    else []

/-! ## Texts -/

/-- How a text is quoted. -/
structure Quoting where
  quote : Char
  /-- Three quotes, between which lines may end. -/
  isLong : Bool
  /-- Backslashes stand for themselves. -/
  isRaw : Bool

/-- The escapes of one character. -/
def escape? : Char → Option Char
  | '\\' => some '\\'
  | '\'' => some '\''
  | '"' => some '"'
  | 'a' => some '\x07'
  | 'b' => some '\x08'
  | 'f' => some '\x0C'
  | 'n' => some '\n'
  | 'r' => some '\r'
  | 't' => some '\t'
  | 'v' => some '\x0B'
  | _ => none

/-- The character of `count` hexadecimal digits, and what follows them. -/
def codeEscape? (count : Nat) (characters : List Char) : Option (Char × List Char) :=
  let digits := characters.take count
  if digits.length = count ∧ digits.all isHexDigit then
    let code := valueInBase 16 digits
    if 0x10FFFF < code then none else some (Char.ofNat code, characters.drop count)
  else none

/-- An octal digit. -/
def isOctalDigit (character : Char) : Bool :=
  '0' ≤ character && character ≤ '7'

/-- The character whose name stands between braces at the start, and what follows. -/
def namedEscape? (characters : List Char) : Option (Char × List Char) :=
  match characters with
  | '\x7b' :: rest =>
    let name := rest.takeWhile (· != '\x7d')
    (characterNamed? name).map fun character => (character, rest.drop (name.length + 1))
  | _ => none

/-- What a backslash followed by these characters stands for, and what follows. -/
def unescape? (isBytes : Bool) (characters : List Char) : Option (List Char × List Char) :=
  match characters with
  | [] => none
  | '\n' :: rest => some ([], rest)
  | 'x' :: rest => (codeEscape? 2 rest).map fun (character, left) => ([character], left)
  | mark :: rest =>
    if !isBytes && mark == 'u' then
      (codeEscape? 4 rest).map fun (character, left) => ([character], left)
    else if !isBytes && mark == 'U' then
      (codeEscape? 8 rest).map fun (character, left) => ([character], left)
    else if !isBytes && mark == 'N' then
      (namedEscape? rest).map fun (character, left) => ([character], left)
    else if isOctalDigit mark then
      let digits := (characters.take 3).takeWhile isOctalDigit
      let code := valueInBase 8 digits
      some ([Char.ofNat (if isBytes then code % 256 else code)], characters.drop digits.length)
    else
      match escape? mark with
      | some character => some ([character], rest)
      | none => some (['\\', mark], rest)

/-- Reads a quoted text up to and including its closing; `done` holds what was read,
the latest first. -/
def readQuoted? (quoting : Quoting) (isBytes : Bool) :
    Nat → List Char → List Char → Option (List Char × List Char)
  | 0, _, _ => none
  | fuel + 1, done, characters =>
    let closing := List.replicate (if quoting.isLong then 3 else 1) quoting.quote
    if closing.isPrefixOf characters then some (done.reverse, characters.drop closing.length)
    else
      match characters with
      | [] => none
      | '\\' :: rest =>
        if quoting.isRaw then
          match rest with
          | [] => none
          | next :: left => readQuoted? quoting isBytes fuel (next :: '\\' :: done) left
        else
          match unescape? isBytes rest with
          | none => none
          | some (found, left) => readQuoted? quoting isBytes fuel (found.reverse ++ done) left
      | character :: rest =>
        if character = '\n' ∧ !quoting.isLong then none
        else if isBytes && 0x7F < character.toNat then none
        else readQuoted? quoting isBytes fuel (character :: done) rest

/-- The letters that may stand before a quote: whether they make bytes, and whether
they make a raw text. -/
def quoteMarks? (letters : List Char) : Option (Bool × Bool) :=
  match String.ofList (letters.map Char.toLower) with
  | "" => some (false, false)
  | "u" => some (false, false)
  | "r" => some (false, true)
  | "b" => some (true, false)
  | "br" => some (true, true)
  | "rb" => some (true, true)
  | _ => none

/-- The text or bytes whose letters and quote stand at the start, and what
follows. -/
def quotedAt? (letters characters : List Char) : Option (Lexeme × List Char) := do
  let (isBytes, isRaw) ← quoteMarks? letters
  let quote ← characters.head?
  let isLong := (List.replicate 3 quote).isPrefixOf characters
  let (content, left) ← readQuoted? ⟨quote, isLong, isRaw⟩ isBytes (characters.length + 1) []
    (characters.drop (if isLong then 3 else 1))
  return (if isBytes then .bytes (content.map fun character => UInt8.ofNat character.toNat)
    else .text (String.ofList content), left)

/-! ## Lines -/

/-- A blank that separates lexemes of one line. -/
def isLineBlank (character : Char) : Bool :=
  character == ' ' || character == '\t' || character == '\x0C'

/-- The marks that are lexemes of their own. -/
def marks : List Char :=
  ['=', '(', ')', '[', ']', '\x7b', '\x7d', ',', ':', ';', '/', '+', '-', '.']

/-- Words that are no names. -/
def keywords : List String :=
  ["False", "None", "True", "and", "as", "assert", "async", "await", "break", "class", "continue",
    "def", "del", "elif", "else", "except", "finally", "for", "from", "global", "if", "import",
    "in", "is", "lambda", "nonlocal", "not", "or", "pass", "raise", "return", "try", "while",
    "with", "yield"]

/-- A character that belongs to a word.  All that is not ASCII does, but not every such
word is a name. -/
def isWordPart (character : Char) : Bool :=
  character.isAlphanum || character == '_' || 0x80 ≤ character.toNat

/-- The lexeme that a word is, if it is one. -/
def wordLexeme? (word : List Char) : Option Lexeme :=
  if keywords.contains (String.ofList word) then some (.keyword (String.ofList word))
  else if isName word then some (.name (String.ofList (usualForm word)))
  else none

/-- How far a line is indented by the blanks at its start, given how far it was before
them.  A form feed begins a line anew. -/
def indentAfter (indent : Nat) (blanks : List Char) : Nat :=
  let latest := blanks.reverse.takeWhile (· != '\x0C')
  if latest.length = blanks.length then indent + blanks.length else latest.length

/-- How many brackets may be open inside each other. -/
def depthLimit : Nat := 200

/-- Reads lexemes: `depth` counts the open brackets, `indent?` tells how far the line is
indented if none of its lexemes was read yet, and `done` holds the lexemes read so far,
the latest first. -/
def readLexemes? : Nat → Nat → Option Nat → List Lexeme → List Char → Option (List Lexeme)
  | 0, _, _, _, _ => none
  | fuel + 1, depth, indent?, done, characters =>
    let blanks := characters.takeWhile isLineBlank
    let begun := characters.drop blanks.length
    let indent? := indent?.map fun indent => indentAfter indent blanks
    match begun with
    | [] => if depth = 0 then some (.lineEnd :: done).reverse else none
    | '\n' :: rest =>
      if depth = 0 then
        readLexemes? fuel 0 (some 0) (if indent?.isSome then done else .lineEnd :: done) rest
      else readLexemes? fuel depth none done rest
    | '#' :: rest => readLexemes? fuel depth indent? done (rest.dropWhile (· != '\n'))
    | '\\' :: '\n' :: rest => if rest = [] then none else readLexemes? fuel depth indent? done rest
    | first :: rest =>
      if (indent?.getD 0) ≠ 0 then none
      else if first = '\'' ∨ first = '"' then
        match quotedAt? [] begun with
        | none => none
        | some (lexeme, left) => readLexemes? fuel depth none (lexeme :: done) left
      else if first.isDigit || (first == '.' && (rest.head?.any Char.isDigit)) then
        let isBased := first == '0' && (rest.head?.any fun mark => mark == 'x' || mark == 'X')
        let numeral := numeralAt false isBased begun
        match numberOf? numeral with
        | none => none
        | some value =>
          readLexemes? fuel depth none (.number value :: done) (begun.drop numeral.length)
      else if isWordPart first then
        let word := begun.takeWhile isWordPart
        let left := begun.drop word.length
        if left.head? = some '\'' ∨ left.head? = some '"' then
          match quotedAt? word left with
          | none => none
          | some (lexeme, after) => readLexemes? fuel depth none (lexeme :: done) after
        else
          match wordLexeme? word with
          | none => none
          | some lexeme => readLexemes? fuel depth none (lexeme :: done) left
      else if first ∈ marks then
        let opens := first = '(' ∨ first = '[' ∨ first = '\x7b'
        let closes := first = ')' ∨ first = ']' ∨ first = '\x7d'
        if (closes ∧ depth = 0) ∨ (opens ∧ depthLimit ≤ depth) then none
        else
          readLexemes? fuel (if opens then depth + 1 else if closes then depth - 1 else depth) none
            (.mark first :: done) rest
      else none

/-- The lexemes of a module's text. -/
def lexemes? (characters : List Char) : Option (List Lexeme) :=
  readLexemes? (characters.length + 1) 0 (some 0) [] characters

end Palette.Script
