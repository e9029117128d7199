import Palette.Text.HexDigit
import Palette.Yaml.Cursor

/-!
# Scalars of a YAML text

Each way of writing a scalar has its rule for line breaks:

* a plain scalar ends before a comment, a colon with a blank, an indicator of a flow
  collection, or a line that is not indented; a single line break in it is a space;
* a quoted scalar ends with its quote, and folds line breaks in the same way;
* a literal block keeps its line breaks, and a folded one joins lines that are not
  indented further.
-/

namespace Palette.Yaml

/-- A refusal of a text. -/
def refuse {α : Type} (problem : String) : Except Fault α :=
  .error (.malformed problem)

/-! ## Plain scalars -/

/-- The length of the run of a plain scalar that begins here. -/
def plainLength (inFlow : Bool) : List Char → Nat
  | [] => 0
  | character :: rest =>
    let next := rest.headD '\x00'
    if isBlankOrEnd character then 0
    else if character == ':' &&
        (isBlankOrEnd next || (inFlow && [',', '[', ']', '\x7b', '\x7d'].contains next)) then 0
    else if inFlow && [',', '?', '[', ']', '\x7b', '\x7d'].contains character then 0
    else plainLength inFlow rest + 1

/-- Reads the line breaks and spaces at the start of further lines.  Nothing is
given if a document begins or ends there. -/
def plainBreaks : Nat → List Char → Cursor → Option (List Char) × Cursor
  | 0, done, cursor => (some done.reverse, cursor)
  | fuel + 1, done, cursor =>
    let character := cursor.peek
    if character = ' ' then plainBreaks fuel done (cursor.forward 1)
    else if isBreak character then
      let (found, after) := cursor.lineBreak
      if after.atDocumentMark then (none, after)
      else plainBreaks fuel (found.reverse ++ done) after
    else (some done.reverse, cursor)

/-- What stands between two runs of a plain scalar, whether a line ended in it, and
the cursor after it.  Nothing is given where the scalar ends. -/
def plainSpaces (cursor : Cursor) : Option (List Char) × Bool × Cursor :=
  let (spaces, after) := cursor.takeWhile (· == ' ')
  if isBreak after.peek then
    let (found, next) := after.lineBreak
    if next.atDocumentMark then (none, true, next)
    else
      match plainBreaks (next.left + 1) [] next with
      | (none, left) => (none, true, left)
      | (some breaks, left) =>
        let first := if found ≠ ['\n'] then found else if breaks = [] then [' '] else []
        (some (first ++ breaks), true, left)
  else (if spaces = [] then none else some spaces, false, after)

/-- What reading a plain scalar gives: its characters, whether a line ended after a
run, and the cursor after it. -/
structure PlainScalar where
  characters : List Char
  endedLine : Bool
  after : Cursor

/-- Reads the runs of a plain scalar that must be indented by at least `indent`;
`done` holds what was read, the latest first, and `spaces` what stands before the
next run. -/
def readPlain (inFlow : Bool) (indent : Int) : Nat → PlainScalar → List Char → PlainScalar
  | 0, scalar, _ => scalar
  | fuel + 1, scalar, spaces =>
    let cursor := scalar.after
    let length := if cursor.peek = '#' then 0 else plainLength inFlow cursor.rest
    if length = 0 then scalar
    else
      let run := cursor.rest.take length
      let characters := run.reverse ++ spaces.reverse ++ scalar.characters
      match plainSpaces (cursor.forward length) with
      | (none, endedLine, after) => ⟨characters, endedLine, after⟩
      | (some between, endedLine, after) =>
        let read : PlainScalar := ⟨characters, endedLine, after⟩
        if after.peek = '#' ∨ (!inFlow ∧ (after.column : Int) < indent) then read
        else readPlain inFlow indent fuel read between

/-- Reads the plain scalar that begins here. -/
def plainScalar (inFlow : Bool) (indent : Int) (cursor : Cursor) : PlainScalar :=
  let scalar := readPlain inFlow indent (cursor.left + 1) ⟨[], false, cursor⟩ []
  { scalar with characters := scalar.characters.reverse }

/-! ## Quoted scalars -/

/-- The character behind a backslash that is no code point. -/
def simpleEscape? : Char → Option Char
  | '0' => some '\x00'
  | 'a' => some '\x07'
  | 'b' => some '\x08'
  | 't' => some '\t'
  | '\t' => some '\t'
  | 'n' => some '\n'
  | 'v' => some '\x0B'
  | 'f' => some '\x0C'
  | 'r' => some '\r'
  | 'e' => some '\x1B'
  | ' ' => some ' '
  | '"' => some '"'
  | '\\' => some '\\'
  | '/' => some '/'
  | 'N' => some '\u0085'
  | '_' => some '\u00A0'
  | 'L' => some '\u2028'
  | 'P' => some '\u2029'
  | _ => none

/-- How many digits follow the letter of an escaped code point. -/
def escapeLength? : Char → Option Nat
  | 'x' => some 2
  | 'u' => some 4
  | 'U' => some 8
  | _ => none

/-- The character of a code point.  A half of a pair has no character of its own. -/
def characterOfCode (code : Nat) : Except Fault Char :=
  if 0x7FFFFFFF < code then .error (.impossible .hugeCodePoint)
  else if 0x10FFFF < code then .error (.impossible .badCodePoint)
  else if 0xD800 ≤ code ∧ code ≤ 0xDFFF then .ok '\uFFFD'
  else .ok (Char.ofNat code)

/-- Reads the line breaks of a quoted scalar and the blanks after each. -/
def quotedBreaks : Nat → List Char → Cursor → Except Fault (List Char × Cursor)
  | 0, done, cursor => .ok (done.reverse, cursor)
  | fuel + 1, done, cursor =>
    if cursor.atDocumentMark then refuse "found unexpected document separator"
    else
      let after := cursor.skipWhile fun character => character == ' ' || character == '\t'
      if isBreak after.peek then
        let (found, next) := after.lineBreak
        quotedBreaks fuel (found.reverse ++ done) next
      else .ok (done.reverse, after)

/-- Reads the escape whose backslash stands here: what it stands for and the cursor
after it. -/
def readEscape (cursor : Cursor) : Except Fault (List Char × Cursor) :=
  let mark := cursor.peekAt 1
  match simpleEscape? mark with
  | some character => .ok ([character], cursor.forward 2)
  | none =>
    match escapeLength? mark with
    | some length => do
      let digits := (cursor.rest.drop 2).take length
      if digits.length = length ∧ digits.all Text.isHexDigit then
        let character ← characterOfCode (Text.hexValue digits)
        return ([character], cursor.forward (2 + length))
      else refuse "expected escape sequence of hexadecimal numbers"
    | none =>
      if isBreak mark then
        let (_, after) := (cursor.forward 1).lineBreak
        quotedBreaks (after.left + 1) [] after
      else refuse "found unknown escape character"

/-- Reads blanks and line breaks inside a quoted scalar. -/
def quotedSpaces (cursor : Cursor) : Except Fault (List Char × Cursor) :=
  let (spaces, after) := cursor.takeWhile fun character => character == ' ' || character == '\t'
  if after.rest = [] then refuse "found unexpected end of stream"
  else if isBreak after.peek then do
    let (found, next) := after.lineBreak
    let (breaks, left) ← quotedBreaks (next.left + 1) [] next
    let first := if found ≠ ['\n'] then found else if breaks = [] then [' '] else []
    return (first ++ breaks, left)
  else .ok (spaces, after)

/-- A character that a quoted scalar does not take as it is. -/
def interruptsQuoted (character : Char) : Bool :=
  character == '\'' || character == '"' || character == '\\' || isBlankOrEnd character

/-- Reads a quoted scalar up to and including its closing quote; `done` holds what was
read, the latest first. -/
def readQuoted (isDouble : Bool) : Nat → List Char → Cursor → Except Fault (List Char × Cursor)
  | 0, _, _ => refuse "found unexpected end of stream"
  | fuel + 1, done, cursor =>
    let character := cursor.peek
    if cursor.rest = [] then refuse "found unexpected end of stream"
    else if !isDouble && character == '\'' then
      if cursor.peekAt 1 = '\'' then readQuoted isDouble fuel ('\'' :: done) (cursor.forward 2)
      else .ok (done.reverse, cursor.forward 1)
    else if isDouble && character == '"' then .ok (done.reverse, cursor.forward 1)
    else if isDouble && character == '\\' then
      match readEscape cursor with
      | .error fault => .error fault
      | .ok (found, after) => readQuoted isDouble fuel (found.reverse ++ done) after
    else if isBlankOrEnd character then
      match quotedSpaces cursor with
      | .error fault => .error fault
      | .ok (found, after) => readQuoted isDouble fuel (found.reverse ++ done) after
    else if interruptsQuoted character then
      readQuoted isDouble fuel (character :: done) (cursor.forward 1)
    else
      let (run, after) := cursor.takeWhile fun next => !interruptsQuoted next
      readQuoted isDouble fuel (run.reverse ++ done) after

/-- Reads the quoted scalar whose quote stands here. -/
def quotedScalar (isDouble : Bool) (cursor : Cursor) : Except Fault (List Char × Cursor) :=
  readQuoted isDouble (cursor.left + 1) [] (cursor.forward 1)

/-! ## Block scalars -/

/-- What a block does with the line breaks at its end. -/
inductive Chomping where
  | clip
  | strip
  | keep
  deriving DecidableEq, Repr

/-- Reads a sign of chomping, if there is one. -/
def readChomping (cursor : Cursor) : Option Chomping × Cursor :=
  if cursor.peek = '+' then (some .keep, cursor.forward 1)
  else if cursor.peek = '-' then (some .strip, cursor.forward 1)
  else (none, cursor)

/-- Reads a digit of indentation, if there is one. -/
def readIncrement (cursor : Cursor) : Except Fault (Option Nat × Cursor) :=
  let character := cursor.peek
  if character.isDigit then
    if character = '0' then refuse "expected indentation indicator in the range 1-9, but found 0"
    else .ok (some (character.toNat - '0'.toNat), cursor.forward 1)
  else .ok (none, cursor)

/-- Reads the signs after a block's mark, in either order, and the rest of that
line. -/
def readBlockHeader (cursor : Cursor) : Except Fault (Chomping × Option Nat × Cursor) := do
  let (first, afterFirst) := readChomping cursor
  let (increment, afterIncrement) ← readIncrement afterFirst
  let (second, after) := if first.isNone && increment.isSome then readChomping afterIncrement
    else (none, afterIncrement)
  if isSpaceOrEnd after.peek then
    let line := after.skipSpaces.skipComment
    if isBreakOrEnd line.peek then
      return ((first.or second).getD .clip, increment, line.lineBreak.2)
    else refuse "expected a comment or a line break"
  else refuse "expected chomping or indentation indicators"

/-- Reads line breaks, each with the spaces after it up to a column. -/
def blockBreaks (indent : Nat) : Nat → List Char → Cursor → List Char × Cursor
  | 0, done, cursor => (done.reverse, cursor)
  | fuel + 1, done, cursor =>
    let spaces := (cursor.rest.take (indent - cursor.column)).takeWhile (· == ' ')
    let after := cursor.forward spaces.length
    if isBreak after.peek then
      let (found, next) := after.lineBreak
      blockBreaks indent fuel (found.reverse ++ done) next
    else (done.reverse, after)

/-- Reads line breaks and spaces, and finds the greatest column of a space. -/
def blockIndentation : Nat → List Char → Nat → Cursor → List Char × Nat × Cursor
  | 0, done, greatest, cursor => (done.reverse, greatest, cursor)
  | fuel + 1, done, greatest, cursor =>
    if cursor.peek = ' ' then
      let after := cursor.forward 1
      blockIndentation fuel done (max greatest after.column) after
    else if isBreak cursor.peek then
      let (found, after) := cursor.lineBreak
      blockIndentation fuel (found.reverse ++ done) greatest after
    else (done.reverse, greatest, cursor)

/-- The lines of a block: `done` holds what was read, the latest first, `final` the
last line's break and `breaks` the breaks after it. -/
structure BlockLines where
  done : List Char
  final : List Char
  breaks : List Char
  after : Cursor

/-- Reads the lines of a block that are indented by `indent`. -/
def readBlockLines (isFolded : Bool) (indent : Nat) : Nat → BlockLines → BlockLines
  | 0, lines => lines
  | fuel + 1, lines =>
    let cursor := lines.after
    if cursor.column = indent ∧ cursor.rest ≠ [] then
      let isIndented (character : Char) := character == ' ' || character == '\t'
      let beginsFlush := !isIndented cursor.peek
      let (line, atBreak) := cursor.takeWhile fun character => !isBreak character
      let (final, afterBreak) := atBreak.lineBreak
      let (breaks, after) := blockBreaks indent (afterBreak.left + 1) [] afterBreak
      let done := line.reverse ++ lines.breaks.reverse ++ lines.done
      if after.column = indent ∧ after.rest ≠ [] then
        let joined :=
          if isFolded && final == ['\n'] && beginsFlush && !isIndented after.peek then
            if breaks = [] then [' '] else []
          else final
        readBlockLines isFolded indent fuel ⟨joined.reverse ++ done, [], breaks, after⟩
      else ⟨done, final, breaks, after⟩
    else lines

/-- Reads the block scalar whose mark stands here, inside a collection indented by
`parent`. -/
def blockScalar (isFolded : Bool) (parent : Int) (cursor : Cursor) :
    Except Fault (List Char × Cursor) := do
  let (chomping, increment, body) ← readBlockHeader (cursor.forward 1)
  let least := max (parent + 1) 1
  let fuel := body.left + 1
  let (indent, breaks, first) :=
    match increment with
    | some increment =>
      let indent := (least + increment - 1).toNat
      let (breaks, first) := blockBreaks indent fuel [] body
      (indent, breaks, first)
    | none =>
      let (breaks, greatest, first) := blockIndentation fuel [] 0 body
      ((max least greatest).toNat, breaks, first)
  let lines := readBlockLines isFolded indent fuel ⟨[], [], breaks, first⟩
  let tail :=
    match chomping with
    | .strip => []
    | .clip => lines.final
    | .keep => lines.final ++ lines.breaks
  return (lines.done.reverse ++ tail, lines.after)

end Palette.Yaml
