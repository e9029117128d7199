import Palette.Yaml.Property

/-!
# From characters to tokens

Tokens are read from left to right.  Outside flow collections the column of a token
opens and closes block collections; a colon later on makes an earlier token a key,
so each token that may be a key is remembered until another one takes its place,
its line ends, or it lies too far back.

A token is handed on only when it is settled whether it is a key (`Stream.settled`).
`Stream.tokens` gives the tokens of a text that are handed on, and the fault that ended
them if one did.
-/

namespace Palette.Yaml

/-- A token that becomes a key if a colon follows. -/
structure PossibleKey where
  /-- How many tokens stand before it. -/
  position : Nat
  /-- It must be a key, or the text is malformed. -/
  isRequired : Bool
  left : Nat
  line : Nat
  column : Nat

/-- The state of reading: the tokens so far, the latest first, and their count, the depth
of flow collections, the columns of the open block collections, innermost first, whether a
key may begin here, and the possible key of each depth. -/
structure Stream where
  cursor : Cursor
  done : List Token
  count : Nat
  depth : Nat
  indent : Int
  outerIndents : List Int
  allowsKey : Bool
  possibleKeys : List (Nat × PossibleKey)

namespace Stream

/-- The state before a text. -/
def start (characters : List Char) : Stream :=
  ⟨.start characters, [], 0, 0, -1, [], true, []⟩

/-- Adds a token. -/
def emit (stream : Stream) (token : Token) : Stream :=
  { stream with done := token :: stream.done, count := stream.count + 1 }

/-- Adds a token after the first `position` ones. -/
def insert (stream : Stream) (position : Nat) (token : Token) : Stream :=
  let later := stream.count - position
  { stream with
    done := stream.done.take later ++ token :: stream.done.drop later
    count := stream.count + 1 }

/-- Moves the cursor. -/
def moveTo (stream : Stream) (cursor : Cursor) : Stream :=
  { stream with cursor }

/-- Moves past `count` characters. -/
def forward (stream : Stream) (count : Nat) : Stream :=
  stream.moveTo (stream.cursor.forward count)

/-- Whether the cursor is in a flow collection. -/
def inFlow (stream : Stream) : Bool :=
  stream.depth != 0

/-! ## Block collections -/

/-- Closes the block collections that are indented further than `column`. -/
def closeIndents (column : Int) : Nat → Stream → Stream
  | 0, stream => stream
  | fuel + 1, stream =>
    if stream.indent > column then
      closeIndents column fuel
        { stream.emit .blockEnd with
          indent := stream.outerIndents.headD (-1)
          outerIndents := stream.outerIndents.drop 1 }
    else stream

/-- Closes block collections, which only happens outside flow collections. -/
def unwind (stream : Stream) (column : Int) : Stream :=
  if stream.inFlow then stream
  else closeIndents column (stream.outerIndents.length + 1) stream

/-- Opens a block collection at a column, if it is indented further than the
innermost one; tells whether it did. -/
def openIndent (stream : Stream) (column : Int) : Bool × Stream :=
  if stream.indent < column then
    (true, { stream with indent := column, outerIndents := stream.indent :: stream.outerIndents })
  else (false, stream)

/-! ## Possible keys -/

/-- The possible key of the present depth. -/
def possibleKey? (stream : Stream) : Option PossibleKey :=
  (stream.possibleKeys.find? fun entry => entry.1 == stream.depth).map Prod.snd

/-- Forgets the possible key of the present depth, which is malformed if it must be a
key. -/
def forgetKey (stream : Stream) : Except Fault Stream :=
  match stream.possibleKey? with
  | none => .ok stream
  | some key =>
    if key.isRequired then refuse "could not find expected ':'"
    else
      .ok { stream with
        possibleKeys := stream.possibleKeys.filter fun entry => entry.1 != stream.depth }

/-- The greatest distance from a key to its colon. -/
def keyReach : Nat := 1024

/-- Whether a possible key's line has ended or it lies too far back. -/
def isStale (stream : Stream) (key : PossibleKey) : Bool :=
  key.line != stream.cursor.line || key.left - stream.cursor.left > keyReach

/-- Forgets the possible keys that no colon can follow any more. -/
def forgetStale (stream : Stream) : Except Fault Stream :=
  if stream.possibleKeys.any fun entry => stream.isStale entry.2 && entry.2.isRequired then
    refuse "could not find expected ':'"
  else
    .ok { stream with
      possibleKeys := stream.possibleKeys.filter fun entry => !stream.isStale entry.2 }

/-- The tokens before the first one that may still become a key. -/
def settled (stream : Stream) : List Token :=
  let unsettled := stream.possibleKeys.filter fun entry => !stream.isStale entry.2
  stream.done.reverse.take
    (unsettled.foldl (fun least entry => min least entry.2.position) stream.count)

/-- Remembers that the next token may be a key. -/
def rememberKey (stream : Stream) : Except Fault Stream :=
  if stream.allowsKey then do
    let cursor := stream.cursor
    let isRequired := !stream.inFlow && stream.indent == (cursor.column : Int)
    let cleared ← stream.forgetKey
    let key : PossibleKey :=
      ⟨stream.count, isRequired, cursor.left, cursor.line, cursor.column⟩
    return { cleared with possibleKeys := (stream.depth, key) :: cleared.possibleKeys }
  else .ok stream

/-! ## Between tokens -/

/-- Moves to the next token, past spaces, comments and line breaks.  Outside flow
collections a key may begin after a line break. -/
def skipToToken : Nat → Stream → Stream
  | 0, stream => stream
  | fuel + 1, stream =>
    let cursor := stream.cursor.skipSpaces.skipComment
    let (found, after) := cursor.lineBreak
    if found = [] then stream.moveTo cursor
    else
      skipToToken fuel
        { stream with cursor := after, allowsKey := stream.allowsKey || !stream.inFlow }

/-! ## Tokens -/

/-- A directive or a mark of a document, before which all block collections end. -/
def beginDocumentPart (stream : Stream) : Except Fault Stream := do
  let cleared ← (stream.unwind (-1)).forgetKey
  return { cleared with allowsKey := false }

/-- The start of a flow collection. -/
def openFlow (stream : Stream) (token : Token) : Except Fault Stream := do
  let remembered ← stream.rememberKey
  return { (remembered.emit token).forward 1 with
    depth := stream.depth + 1
    allowsKey := true }

/-- The end of a flow collection. -/
def closeFlow (stream : Stream) (token : Token) : Except Fault Stream := do
  if stream.inFlow then
    let cleared ← stream.forgetKey
    return { (cleared.emit token).forward 1 with
      depth := stream.depth - 1
      allowsKey := false }
  else refuse "unexpected end of a flow collection"

/-- An indicator that may open a block collection; `message` is for where none may
begin. -/
def indicator (stream : Stream) (opening token : Token) (allowsKey : Bool) (message : String) :
    Except Fault Stream := do
  let opened ←
    if stream.inFlow then pure stream
    else if stream.allowsKey then
      let (isNew, opened) := stream.openIndent stream.cursor.column
      pure (if isNew then opened.emit opening else opened)
    else refuse message
  let cleared ← ({ opened with allowsKey } : Stream).forgetKey
  return (cleared.emit token).forward 1

/-- The colon after a key. -/
def valueAfterKey (stream : Stream) (key : PossibleKey) : Stream :=
  let forgotten : Stream :=
    { stream with
      possibleKeys := stream.possibleKeys.filter fun entry => entry.1 != stream.depth }
  let keyed := forgotten.insert key.position .key
  let opened :=
    if stream.inFlow then keyed
    else
      let (isNew, opened) := keyed.openIndent key.column
      if isNew then opened.insert key.position .blockMappingStart else opened
  { (opened.emit .value).forward 1 with allowsKey := false }

/-- A colon. -/
def valueIndicator (stream : Stream) : Except Fault Stream :=
  match stream.possibleKey? with
  | some key => .ok (stream.valueAfterKey key)
  | none =>
    stream.indicator .blockMappingStart .value (!stream.inFlow)
      "mapping values are not allowed here"

/-- A token that may be a key and is read by `read`. -/
def property (stream : Stream) (read : Cursor → Except Fault (Token × Cursor)) :
    Except Fault Stream := do
  let remembered ← stream.rememberKey
  let (token, after) ← read stream.cursor
  return { (remembered.emit token).moveTo after with allowsKey := false }

/-- A quoted scalar. -/
def quotedToken (isDouble : Bool) (stream : Stream) : Except Fault Stream :=
  stream.property fun cursor =>
    (quotedScalar isDouble cursor).map fun (characters, after) =>
      (.scalar (String.ofList characters) false, after)

/-- A block scalar. -/
def blockToken (isFolded : Bool) (stream : Stream) : Except Fault Stream := do
  let cleared ← ({ stream with allowsKey := true } : Stream).forgetKey
  let (characters, after) ← blockScalar isFolded stream.indent stream.cursor
  return (cleared.emit (.scalar (String.ofList characters) false)).moveTo after

/-- A plain scalar. -/
def plainToken (stream : Stream) : Except Fault Stream := do
  let remembered ← stream.rememberKey
  let scalar := plainScalar stream.inFlow (stream.indent + 1) stream.cursor
  return { (remembered.emit (.scalar (String.ofList scalar.characters) true)).moveTo scalar.after
    with allowsKey := scalar.endedLine }

/-- The characters that begin no plain scalar. -/
def indicators : List Char :=
  "-?:,[]\x7b\x7d#&*!|>'\"%@\x60".toList

/-- Whether a plain scalar begins here. -/
def beginsPlain (stream : Stream) : Bool :=
  let character := stream.cursor.peek
  let next := stream.cursor.peekAt 1
  (!isBlankOrEnd character && !indicators.contains character) ||
    (!isBlankOrEnd next &&
      (character == '-' || (!stream.inFlow && (character == '?' || character == ':'))))

/-- Whether an indicator that must be followed by a blank outside flow collections
stands here. -/
def atIndicator (stream : Stream) (character : Char) : Bool :=
  stream.cursor.peek == character && (stream.inFlow || isBlankOrEnd (stream.cursor.peekAt 1))

/-- Reads the token that begins here, which is not the end of the text. -/
def readToken (stream : Stream) : Except Fault Stream := do
  let cursor := stream.cursor
  let character := cursor.peek
  if cursor.column = 0 ∧ character = '%' then
    let begun ← stream.beginDocumentPart
    let (directive, after) ← readDirective cursor
    return (begun.emit (.directive directive)).moveTo after
  else if cursor.column = 0 ∧ cursor.atMark ['-', '-', '-'] then
    let begun ← stream.beginDocumentPart
    return (begun.emit .documentStart).forward 3
  else if cursor.column = 0 ∧ cursor.atMark ['.', '.', '.'] then
    let begun ← stream.beginDocumentPart
    return (begun.emit .documentEnd).forward 3
  else if character = '[' then stream.openFlow .flowSequenceStart
  else if character = '\x7b' then stream.openFlow .flowMappingStart
  else if character = ']' then stream.closeFlow .flowSequenceEnd
  else if character = '\x7d' then stream.closeFlow .flowMappingEnd
  else if character = ',' then
    let cleared ← stream.forgetKey
    return { (cleared.emit .flowEntry).forward 1 with allowsKey := true }
  else if character = '-' ∧ isBlankOrEnd (cursor.peekAt 1) then
    stream.indicator .blockSequenceStart .blockEntry true "sequence entries are not allowed here"
  else if stream.atIndicator '?' then
    stream.indicator .blockMappingStart .key (!stream.inFlow) "mapping keys are not allowed here"
  else if stream.atIndicator ':' then stream.valueIndicator
  else if character = '*' then
    stream.property fun cursor =>
      (readAnchor cursor).map fun (name, after) => (.alias name, after)
  else if character = '&' then
    stream.property fun cursor =>
      (readAnchor cursor).map fun (name, after) => (.anchor name, after)
  else if character = '!' then
    stream.property fun cursor => (readTag cursor).map fun (tag, after) => (.tag tag, after)
  else if character = '|' ∧ !stream.inFlow then stream.blockToken false
  else if character = '>' ∧ !stream.inFlow then stream.blockToken true
  else if character = '\'' then stream.quotedToken false
  else if character = '"' then stream.quotedToken true
  else if stream.beginsPlain then stream.plainToken
  else refuse "found character that cannot start any token"

/-- Ends the text: all block collections end. -/
def finish (stream : Stream) : Except Fault Stream := do
  let cleared ← (stream.unwind (-1)).forgetKey
  return cleared.emit .streamEnd

/-- Reads the next token, and tells whether it is the end of the text. -/
def next (stream : Stream) : Except Fault (Bool × Stream) := do
  let current ← (stream.skipToToken (stream.cursor.left + 1)).forgetStale
  let begun := current.unwind current.cursor.column
  if begun.cursor.rest = [] then return (true, ← begun.finish)
  else return (false, ← begun.readToken)

/-- Reads all tokens, up to the first fault. -/
def run : Nat → Stream → List Token × Option Fault
  | 0, stream => (stream.settled, some (.malformed "found unexpected end of stream"))
  | fuel + 1, stream =>
    match stream.next with
    | .error fault => (stream.settled, some fault)
    | .ok (true, after) => (after.done.reverse, none)
    | .ok (false, after) => run fuel after

/-- The tokens of a text that are handed on, and the fault that ended them if one did.  A
mark of the byte order at the very start is passed over. -/
def tokens (characters : List Char) : List Token × Option Fault :=
  if characters.all isPrintable then
    let begun := start characters
    let begun := if characters.head? = some '\uFEFF' then begun.forward 1 else begun
    run (characters.length + 1) begun
  else ([], some (.malformed "special characters are not allowed"))

end Stream

end Palette.Yaml
