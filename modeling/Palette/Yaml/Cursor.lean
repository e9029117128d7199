import Palette.Abort

/-!
# Places in a YAML text

A cursor is what is left of a text, with the count of its characters and its line and
column.  A text has no null character, so a null stands for its end.

Line breaks are the line feed, the next-line mark, and the line and paragraph
separators; the first two count as a line feed in values.
-/

namespace Palette.Yaml

/-- Why a text gives no value. -/
inductive Fault where
  /-- The text, or the use of a tag or an anchor in it, is malformed. -/
  | malformed (problem : String)
  /-- A scalar cannot be what it is tagged as. -/
  | impossible (abort : Abort)
  deriving Repr

/-- What is left of a text, and where it begins. -/
structure Cursor where
  rest : List Char
  /-- How many characters are left. -/
  left : Nat
  line : Nat
  column : Nat

namespace Cursor

/-- The start of a text. -/
def start (characters : List Char) : Cursor :=
  ⟨characters, characters.length, 0, 0⟩

/-- The next character, or a null at the end. -/
def peek (cursor : Cursor) : Char :=
  cursor.rest.headD '\x00'

/-- The character `count` places ahead, or a null past the end. -/
def peekAt (cursor : Cursor) (count : Nat) : Char :=
  (cursor.rest.drop count).headD '\x00'

end Cursor

/-- A character that ends a line. -/
def isBreak (character : Char) : Bool :=
  character == '\n' || character == '\r' || character == '\u0085' || character == '\u2028' ||
    character == '\u2029'

/-- A line's end or the text's end. -/
def isBreakOrEnd (character : Char) : Bool :=
  character == '\x00' || isBreak character

/-- A space, a line's end or the text's end. -/
def isSpaceOrEnd (character : Char) : Bool :=
  character == ' ' || isBreakOrEnd character

/-- A space, a tabulator, a line's end or the text's end. -/
def isBlankOrEnd (character : Char) : Bool :=
  character == '\t' || isSpaceOrEnd character

/-- A character of a word: an ASCII letter or digit, a hyphen or a low line. -/
def isNameCharacter (character : Char) : Bool :=
  character.isAlphanum || character == '-' || character == '_'

namespace Cursor

/-- Moves past `count` characters.  A mark of the byte order takes no column. -/
def forward : Nat → Cursor → Cursor
  | 0, cursor => cursor
  | count + 1, cursor =>
    match cursor.rest with
    | [] => cursor
    | character :: rest =>
      forward count
        { rest
          left := cursor.left - 1
          line := if isBreak character then cursor.line + 1 else cursor.line
          column :=
            if isBreak character then 0
            else if character = '\uFEFF' then cursor.column
            else cursor.column + 1 }

/-- Moving keeps the count of the characters that are left. -/
theorem left_forward {cursor : Cursor} (count : Nat) (hleft : cursor.left = cursor.rest.length) :
    (cursor.forward count).left = (cursor.forward count).rest.length := by
  induction count generalizing cursor with
  | zero => exact hleft
  | succ count ih =>
    unfold forward
    split
    · exact hleft
    · rename_i hrest
      rw [hrest, List.length_cons] at hleft
      exact ih (by simp [hleft])

/-- The characters at the start that have a property, and the cursor past them. -/
def takeWhile (cursor : Cursor) (property : Char → Bool) : List Char × Cursor :=
  let taken := cursor.rest.takeWhile property
  (taken, cursor.forward taken.length)

/-- Moves past the characters at the start that have a property. -/
def skipWhile (cursor : Cursor) (property : Char → Bool) : Cursor :=
  (cursor.takeWhile property).2

/-- Moves past spaces. -/
def skipSpaces (cursor : Cursor) : Cursor :=
  cursor.skipWhile (· == ' ')

/-- Moves past a comment, if one begins here. -/
def skipComment (cursor : Cursor) : Cursor :=
  if cursor.peek = '#' then cursor.skipWhile fun character => !isBreak character else cursor

/-- Reads a line break as it stands in a value; nothing if there is none. -/
def lineBreak (cursor : Cursor) : List Char × Cursor :=
  let character := cursor.peek
  if character = '\r' ∧ cursor.peekAt 1 = '\n' then (['\n'], cursor.forward 2)
  else if character = '\n' ∨ character = '\r' ∨ character = '\u0085' then
    (['\n'], cursor.forward 1)
  else if character = '\u2028' ∨ character = '\u2029' then ([character], cursor.forward 1)
  else ([], cursor)

/-- Whether a mark of three characters, a line of its own but for what follows a
blank, begins here. -/
def atMark (cursor : Cursor) (mark : List Char) : Bool :=
  cursor.rest.take 3 == mark && isBlankOrEnd (cursor.peekAt 3)

/-- Whether a document begins or ends here, were this the start of a line. -/
def atDocumentMark (cursor : Cursor) : Bool :=
  cursor.atMark ['-', '-', '-'] || cursor.atMark ['.', '.', '.']

end Cursor

/-- A character that may stand in a text at all. -/
def isPrintable (character : Char) : Bool :=
  let code := character.toNat
  code == 0x09 || code == 0x0A || code == 0x0D || (0x20 ≤ code && code ≤ 0x7E) || code == 0x85 ||
    (0xA0 ≤ code && code ≤ 0xD7FF) || (0xE000 ≤ code && code ≤ 0xFFFD) ||
    (0x10000 ≤ code && code ≤ 0x10FFFF)

end Palette.Yaml
