/-!
# White space

Blank characters are the white space of every script.  Trimming, splitting into
words and the tests for emptiness all use this one class, so that a text is
blank exactly when it has no words.

* `trim` removes blanks at both ends;
* `words` cuts a text at its blanks;
* `words_eq_nil_iff` ties the two together.
-/

namespace Palette.Text

/-- The white space of every script: the ASCII separators and controls, the
no-break and typographic spaces, and the line and paragraph separators. -/
def isBlank (character : Char) : Bool :=
  let code := character.toNat
  (0x09 ≤ code && code ≤ 0x0D) || (0x1C ≤ code && code ≤ 0x20) ||
    code == 0x85 || code == 0xA0 || code == 0x1680 ||
    (0x2000 ≤ code && code ≤ 0x200A) || code == 0x2028 || code == 0x2029 ||
    code == 0x202F || code == 0x205F || code == 0x3000

/-- The text without its leading blanks. -/
def trimLeft (characters : List Char) : List Char :=
  characters.dropWhile isBlank

/-- The text without its trailing blanks. -/
def trimRight (characters : List Char) : List Char :=
  (characters.reverse.dropWhile isBlank).reverse

/-- The text without the blanks at its ends. -/
def trim (characters : List Char) : List Char :=
  trimRight (trimLeft characters)

/-- The string without the blanks at its ends. -/
def trimString (text : String) : String :=
  String.ofList (trim text.toList)

/-- Puts a character in front of the first word. -/
def lengthenFirst (character : Char) : List (List Char) → List (List Char)
  | [] => [[character]]
  | word :: others => (character :: word) :: others

/-- Whether a text begins with a character of a word. -/
def beginsWord : List Char → Bool
  | [] => false
  | character :: _ => !isBlank character

/-- The maximal runs of characters that are not blank. -/
def words : List Char → List (List Char)
  | [] => []
  | character :: rest =>
    if isBlank character then words rest
    else if beginsWord rest then lengthenFirst character (words rest)
    else [character] :: words rest

/-! ## Interface lemmas -/

@[simp] theorem trimLeft_nil : trimLeft [] = [] := rfl

@[simp] theorem trim_nil : trim [] = [] := rfl

@[simp] theorem words_nil : words [] = [] := rfl

/-- A leading blank is never part of a word. -/
theorem words_cons_of_blank {character : Char} (rest : List Char)
    (hblank : isBlank character = true) : words (character :: rest) = words rest := by
  simp [words, hblank]

/-- A word character in front is never lost. -/
theorem words_cons_ne_nil {character : Char} (rest : List Char)
    (hblank : isBlank character = false) : words (character :: rest) ≠ [] := by
  rw [words, if_neg (by simp [hblank])]
  split
  · cases words rest <;> simp [lengthenFirst]
  · simp

/-- A text has no words exactly when all its characters are blank. -/
theorem words_eq_nil_iff (characters : List Char) :
    words characters = [] ↔ ∀ character ∈ characters, isBlank character = true := by
  induction characters with
  | nil => simp
  | cons character rest ih =>
    cases hblank : isBlank character with
    | true =>
      rw [words_cons_of_blank rest hblank, ih]
      simp [hblank]
    | false =>
      refine ⟨fun hwords => absurd hwords (words_cons_ne_nil rest hblank), fun hall => ?_⟩
      have hfirst := hall character (by simp)
      rw [hblank] at hfirst
      simp at hfirst

end Palette.Text
