import Palette.Text.CharacterName.Alias
import Palette.Text.CharacterName.Alphabets
import Palette.Text.CharacterName.Ancient
import Palette.Text.CharacterName.EastAsian
import Palette.Text.CharacterName.Hieroglyphs
import Palette.Text.CharacterName.Pictures
import Palette.Text.CharacterName.Syllabaries
import Palette.Text.CharacterName.Symbols
import Palette.Text.Ranges
import Palette.Text.UsualForm

/-!
# Characters by name

A character is found by its name (`characterNamed?`), in one of four ways:

* the syllables of the Korean script are named by the sounds of their letters;
* ideographs and a few other characters are named by their code points;
* all others have a name in the tables, or
* a further name beside it.

The names made by rule, those of syllables and of the unified ideographs, are in capital
letters; in the others capital and small letters are the same.
-/

namespace Palette.Text

/-! ## Names made by rule -/

/-- What follows the words, if the name begins with them. -/
def nameAfter? (words : String) (name : List Char) : Option (List Char) :=
  if words.toList.isPrefixOf name then some (name.drop words.length) else none

/-- The sounds that a Korean syllable begins with. -/
def openingSounds : List String :=
  ["G", "GG", "N", "D", "DD", "R", "M", "B", "BB", "S", "SS", "", "J", "JJ", "C", "K", "T", "P",
  "H"]

/-- The vowels of Korean syllables. -/
def vowelSounds : List String :=
  ["A", "AE", "YA", "YAE", "EO", "E", "YEO", "YE", "O", "WA", "WAE", "OE", "YO", "U", "WEO",
  "WE", "WI", "YU", "EU", "YI", "I"]

/-- The sounds that a Korean syllable ends with. -/
def closingSounds : List String :=
  ["", "G", "GG", "GS", "N", "NJ", "NH", "D", "L", "LG", "LM", "LB", "LS", "LT", "LP", "LH", "M",
  "B", "BS", "S", "SS", "NG", "J", "C", "K", "T", "P", "H"]

/-- A letter of a vowel's name. -/
def isVowelLetter (character : Char) : Bool :=
  "AEIOUWY".toList.contains character

/-- The place of a sound among others. -/
def place? (sounds : List String) (sound : List Char) : Option Nat :=
  sounds.idxOf? (String.ofList sound)

/-- The code point of the syllable with these sounds. -/
def syllableNamed? (sounds : List Char) : Option Nat := do
  let (opening, rest) := sounds.span fun character => !isVowelLetter character
  let (vowel, closing) := rest.span isVowelLetter
  let first ← place? openingSounds opening
  let second ← place? vowelSounds vowel
  let third ← place? closingSounds closing
  return firstSyllable + (first * 21 + second) * 28 + third

/-- The unified ideographs. -/
def unifiedIdeographs : Ranges :=
  [(0x3400, 0x4DBF), (0x4E00, 0x9FFF), (0x20000, 0x2A6DF), (0x2A700, 0x2B738),
  (0x2B740, 0x2B81D), (0x2B820, 0x2CEA1), (0x2CEB0, 0x2EBE0), (0x30000, 0x3134A)]

/-- Other characters whose names are some words and the code point. -/
def numberedCharacters : List (String × Ranges) :=
  [("CJK COMPATIBILITY IDEOGRAPH-", [(0xF900, 0xFA6D), (0xFA70, 0xFAD9), (0x2F800, 0x2FA1D)]),
  ("KHITAN SMALL SCRIPT CHARACTER-", [(0x18B00, 0x18CD5)]),
  ("NUSHU CHARACTER-", [(0x1B170, 0x1B2FB)])]

/-- Numbered selectors of a variant: their name is two letters and a number from the first
one of the row on. -/
def variantSelectors : List (Nat × Nat × Nat) :=
  [(1, 16, 0xFE00), (17, 256, 0xE0100)]

/-- The number of four or five hexadecimal digits in capital letters. -/
def codeNumber? (digits : List Char) : Option Nat :=
  if (digits.length = 4 ∨ digits.length = 5) ∧
      digits.all fun digit => isHexDigit digit && !digit.isLower then
    some (hexValue digits)
  else none

/-- A code point within the ranges, given by its number. -/
def numberedIn? (ranges : Ranges) (digits : List Char) : Option Nat :=
  (codeNumber? digits).filter fun code => ranges.contains (Char.ofNat code)

/-- The code point of a name that is made by rule and written in capital letters only. -/
def ruledCode? (name : List Char) : Option (Option Nat) :=
  match nameAfter? "HANGUL SYLLABLE " name with
  | some sounds => some (syllableNamed? sounds)
  | none => (nameAfter? "CJK UNIFIED IDEOGRAPH-" name).map (numberedIn? unifiedIdeographs)

/-! ## Names in tables -/

/-- All tables of names. -/
def nameTables : List (List NameRow) :=
  [alphabetNames, syllabaryNames, symbolNames, eastAsianNames, ancientNames, hieroglyphNames,
  pictureNames]

/-- The code point of a character that is named by words and its code point. -/
def numberedCode? (name : List Char) : Option Nat :=
  numberedCharacters.findSome? fun (words, ranges) =>
    match nameAfter? words name with
    | some digits => if digits.head? = some '0' then none else numberedIn? ranges digits
    | none => none

/-- The code point of a selector of a variant. -/
def selectorCode? (name : List Char) : Option Nat :=
  match nameAfter? "VS" name with
  | some digits =>
    if digits.all Char.isDigit ∧ digits.head? ≠ some '0' then
      let number := Nat.ofDigitChars 10 digits 0
      variantSelectors.findSome? fun (first, last, code) =>
        if first ≤ number ∧ number ≤ last then some (code + (number - first)) else none
    else none
  | none => none

/-- The code point of a name in the tables. -/
def tableCode? (name : List Char) : Option Nat :=
  nameTables.findSome? fun rows => rows.findSome? fun row => row.code? name

/-- The code point of a further name. -/
def aliasCode? (name : List Char) : Option Nat :=
  (aliasNames.find? fun entry => entry.2.toList == name).map Prod.fst

/-- The character of a name. -/
def characterNamed? (name : List Char) : Option Char :=
  let code? :=
    match ruledCode? name with
    | some found => found
    | none =>
      let capitals := name.map Char.toUpper
      numberedCode? capitals <|> selectorCode? capitals <|> aliasCode? capitals <|>
        tableCode? capitals
  code?.map Char.ofNat

end Palette.Text
