import Palette.Yaml.Graph
import Palette.Yaml.Stream

/-!
# Documents of a YAML text

The tokens of a text make the nodes of one document, each in its place in a graph.  An
alias is the place that its anchor names.  A collection has its place before its parts
are read, so they may refer to it.

`Document.ofTokens?` reads the one document of a text; nothing is given for a text
without any.
-/

namespace Palette.Yaml

/-- A document: its nodes, and the place of the outermost one. -/
structure Document where
  graph : Graph
  root : Place

/-! ## Reading tokens -/

/-- The state of reading: the tokens ahead, the fault behind the last one if there is
one, what the handles of tags stand for, the nodes so far, and the places of anchors. -/
structure Reading where
  tokens : List Token
  cut : Option Fault
  handles : List (String × String)
  graph : Graph
  anchors : List (String × Place)

/-- A step of reading. -/
abbrev Reader := StateT Reading (Except Fault)

namespace Reader

/-- Refuses the text. -/
def refuse {α : Type} (problem : String) : Reader α :=
  throw (.malformed problem)

/-- The next token. -/
def peek : Reader Token := do
  let reading ← get
  match reading.tokens, reading.cut with
  | token :: _, _ => return token
  | [], some fault => throw fault
  | [], none => refuse "expected more tokens"

/-- Moves past the next token. -/
def skip : Reader Unit :=
  modify fun reading => { reading with tokens := reading.tokens.drop 1 }

/-- Whether the next token is one of these. -/
def nextIs (expected : List Token) : Reader Bool :=
  return expected.contains (← peek)

/-- Moves past a token that must come next. -/
def expect (token : Token) : Reader Unit := do
  if ← nextIs [token] then skip else refuse "found an unexpected token"

/-! ## Places -/

/-- The place of the node that an alias stands for, whose anchor was read before. -/
def referTo (name : String) : Reader Place := do
  match (← get).anchors.lookup name with
  | some place => return place
  | none => refuse "found undefined alias"

/-- Adds a node to the graph, under an anchor if it has one. -/
def add (anchor : Option String) (node : Node) : Reader Place :=
  modifyGet fun reading =>
    let place := reading.graph.size
    let anchors :=
      match anchor with
      | some name => (name, place) :: reading.anchors
      | none => reading.anchors
    (place, { reading with graph := reading.graph.add node, anchors })

/-- Adds the scalar that stands where nothing is written. -/
def addEmpty : Reader Place :=
  add none .empty

/-- Adds a collection, first without its parts, and reads them. -/
def addCollection {α : Type} (anchor : Option String) (collection : List α → Node)
    (parts : Reader (List α)) : Reader Place := do
  let place ← add anchor (collection [])
  let found ← parts
  modify fun reading => { reading with graph := reading.graph.set place (collection found) }
  return place

/-! ## Properties of nodes -/

/-- The full name of a written tag. -/
def fullTag (tag : WrittenTag) : Reader String := do
  match tag.handle with
  | none => return tag.suffix
  | some handle =>
    match ((← get).handles.find? fun entry => entry.1 == handle).map Prod.snd with
    | some expansion => return expansion ++ tag.suffix
    | none => refuse "found undefined tag handle"

/-- The anchor that comes next, if one does. -/
def anchor? : Reader (Option String) := do
  match ← peek with
  | .anchor name =>
    skip
    return some name
  | _ => return none

/-- The tag that comes next, if one does. -/
def tag? : Reader (Option WrittenTag) := do
  match ← peek with
  | .tag tag =>
    skip
    return some tag
  | _ => return none

/-- The anchor and the full name of the tag of the node that comes next, which may
stand in either order. -/
def properties : Reader (Option String × Option String) := do
  let before ← anchor?
  let tag ← tag?
  let anchor ← if before.isNone && tag.isSome then anchor? else pure before
  match tag with
  | none => return (anchor, none)
  | some written => return (anchor, some (← fullTag written))

/-- The tag that leaves the choice to the form of a node. -/
def openTag : String := "!"

/-- The tag of a collection; `standard` is the one of its form. -/
def collectionTag (standard : Tag) : Option String → Tag
  | none => standard
  | some name => if name = openTag then standard else .ofName name

/-- The tag of a scalar.  Quoting makes a text of a scalar without any tag. -/
def scalarTag (text : String) (isPlain : Bool) : Option String → Tag
  | none => if isPlain then .ofPlain text else .text
  | some name => if name = openTag then .ofPlain text else .ofName name

/-! ## Nodes -/

mutual

/-- Reads a node.  `inBlock` allows block collections, and `indentless` also a sequence
that is not indented further than the mapping around it. -/
def node (inBlock indentless : Bool) : Nat → Reader Place
  | 0 => refuse "nested too deep"
  | fuel + 1 => do
    match ← peek with
    | .alias name =>
      skip
      referTo name
    | _ =>
      let (anchor, tag) ← properties
      let _ ← peek
      let known := (← get).anchors
      if anchor.any fun name => (known.lookup name).isSome then refuse "found duplicate anchor"
      else content inBlock indentless anchor tag fuel

/-- Reads what follows the properties of a node.  A node with properties may be
empty. -/
def content (inBlock indentless : Bool) (anchor tag : Option String) : Nat → Reader Place
  | 0 => refuse "nested too deep"
  | fuel + 1 => do
    let sequence := Node.sequence (collectionTag .sequence tag)
    let mapping := Node.mapping (collectionTag .mapping tag)
    match ← peek, inBlock, indentless with
    | .blockEntry, _, true => addCollection anchor sequence (indentlessItems [] fuel)
    | .scalar text isPlain, _, _ =>
      skip
      add anchor (.scalar (scalarTag text isPlain tag) text)
    | .flowSequenceStart, _, _ =>
      skip
      addCollection anchor sequence (flowItems true [] fuel)
    | .flowMappingStart, _, _ =>
      skip
      addCollection anchor mapping (flowEntries true [] fuel)
    | .blockSequenceStart, true, _ =>
      skip
      addCollection anchor sequence (blockItems [] fuel)
    | .blockMappingStart, true, _ =>
      skip
      addCollection anchor mapping (blockEntries [] fuel)
    | _, _, _ =>
      if anchor.isSome || tag.isSome then add anchor (.scalar (scalarTag "" true tag) "")
      else refuse "expected the node content"

/-- Reads a node, which is empty if one of `ends` comes next. -/
def nodeUnless (ends : List Token) (inBlock : Bool) : Nat → Reader Place
  | 0 => refuse "nested too deep"
  | fuel + 1 => do
    if ← nextIs ends then addEmpty else node inBlock inBlock fuel

/-- Reads the value of an entry, which is empty without a colon or if one of `ends`
comes next. -/
def valueUnless (ends : List Token) (inBlock : Bool) : Nat → Reader Place
  | 0 => refuse "nested too deep"
  | fuel + 1 => do
    if ← nextIs [.value] then
      skip
      nodeUnless ends inBlock fuel
    else addEmpty

/-- Reads the items of a block sequence, and its end. -/
def blockItems (done : List Place) : Nat → Reader (List Place)
  | 0 => refuse "nested too deep"
  | fuel + 1 => do
    if ← nextIs [.blockEntry] then
      skip
      let item ←
        if ← nextIs [.blockEntry, .blockEnd] then addEmpty else node true false fuel
      blockItems (item :: done) fuel
    else
      expect .blockEnd
      return done.reverse

/-- Reads the items of a sequence that ends where the mapping around it goes on. -/
def indentlessItems (done : List Place) : Nat → Reader (List Place)
  | 0 => refuse "nested too deep"
  | fuel + 1 => do
    if ← nextIs [.blockEntry] then
      skip
      let item ←
        if ← nextIs [.blockEntry, .key, .value, .blockEnd] then addEmpty
        else node true false fuel
      indentlessItems (item :: done) fuel
    else return done.reverse

/-- Reads the entries of a block mapping, and its end. -/
def blockEntries (done : List Entry) : Nat → Reader (List Entry)
  | 0 => refuse "nested too deep"
  | fuel + 1 => do
    if ← nextIs [.key] then
      skip
      let key ← nodeUnless [.key, .value, .blockEnd] true fuel
      let value ← valueUnless [.key, .value, .blockEnd] true fuel
      blockEntries ((key, value) :: done) fuel
    else
      expect .blockEnd
      return done.reverse

/-- Reads the items of a flow sequence, and its end.  An item may be a single entry,
which makes a mapping. -/
def flowItems (isFirst : Bool) (done : List Place) : Nat → Reader (List Place)
  | 0 => refuse "nested too deep"
  | fuel + 1 => do
    if ← nextIs [.flowSequenceEnd] then
      skip
      return done.reverse
    else
      if !isFirst then expect .flowEntry
      if ← nextIs [.key] then
        skip
        let key ← nodeUnless [.value, .flowEntry, .flowSequenceEnd] false fuel
        let value ← valueUnless [.flowEntry, .flowSequenceEnd] false fuel
        let item ← add none (.mapping .mapping [(key, value)])
        flowItems false (item :: done) fuel
      else if ← nextIs [.flowSequenceEnd] then
        skip
        return done.reverse
      else
        let item ← node false false fuel
        flowItems false (item :: done) fuel

/-- Reads the entries of a flow mapping, and its end.  An entry without a colon has an
empty value. -/
def flowEntries (isFirst : Bool) (done : List Entry) : Nat → Reader (List Entry)
  | 0 => refuse "nested too deep"
  | fuel + 1 => do
    if ← nextIs [.flowMappingEnd] then
      skip
      return done.reverse
    else
      if !isFirst then expect .flowEntry
      if ← nextIs [.key] then
        skip
        let key ← nodeUnless [.value, .flowEntry, .flowMappingEnd] false fuel
        let value ← valueUnless [.flowEntry, .flowMappingEnd] false fuel
        flowEntries false ((key, value) :: done) fuel
      else if ← nextIs [.flowMappingEnd] then
        skip
        return done.reverse
      else
        let key ← node false false fuel
        let value ← addEmpty
        flowEntries false ((key, value) :: done) fuel

end

/-! ## Documents -/

/-- The directive of a token. -/
def directive? : Token → Option Directive
  | .directive directive => some directive
  | _ => none

/-- The handles that have a meaning without a directive. -/
def standardHandles : List (String × String) :=
  [("!", "!"), ("!!", Tag.standardStart)]

/-- What the handles stand for after directives.  There may be one version, which must
be of the first kind, and one directive for each handle. -/
def handlesAfter (hasVersion : Bool) (handles : List (String × String)) :
    List Directive → Except Fault (List (String × String))
  | [] => .ok (handles ++ standardHandles)
  | .version major _ :: rest =>
    if hasVersion then Yaml.refuse "found duplicate YAML directive"
    else if major ≠ 1 then Yaml.refuse "found incompatible YAML document"
    else handlesAfter true handles rest
  | .handle handle expansion :: rest =>
    if handles.any fun entry => entry.1 == handle then Yaml.refuse "duplicate tag handle"
    else handlesAfter hasVersion ((handle, expansion) :: handles) rest
  | .other :: rest => handlesAfter hasVersion handles rest

/-- Reads directives and the mark of a document's start. -/
def documentStart : Reader Unit := do
  let reading ← get
  let written := reading.tokens.takeWhile fun token => (directive? token).isSome
  let handles ← (handlesAfter false [] (written.filterMap directive?) : Except Fault _)
  set { reading with tokens := reading.tokens.drop written.length, handles }
  expect .documentStart

/-- Whether the next token ends a document or stands before one. -/
def atDocumentEdge : Reader Bool := do
  match ← peek with
  | .directive _ | .documentStart | .documentEnd | .streamEnd => return true
  | _ => return false

/-- Moves past the marks of a document's end. -/
def skipDocumentEnds : Reader Unit :=
  modify fun reading =>
    { reading with tokens := reading.tokens.dropWhile fun token => token == .documentEnd }

/-- Reads the one document of a text, if there is any. -/
def document? (fuel : Nat) : Reader (Option Place) := do
  match ← peek with
  | .streamEnd => return none
  | .directive _ | .documentStart =>
    documentStart
    let root ← if ← atDocumentEdge then addEmpty else node true false fuel
    skipDocumentEnds
    expect .streamEnd
    return some root
  | _ =>
    let root ← node true false fuel
    skipDocumentEnds
    expect .streamEnd
    return some root

end Reader

/-- The one document that a text has.  Each token takes a few steps, so the steps are
bounded by a multiple of the tokens. -/
def Document.ofTokens? (tokens : List Token) (cut : Option Fault) :
    Except Fault (Option Document) :=
  let start : Reading := ⟨tokens, cut, Reader.standardHandles, .empty, []⟩
  ((Reader.document? (8 * tokens.length + 8)).run start).map fun (root?, reading) =>
    root?.map fun root => ⟨reading.graph, root⟩

end Palette.Yaml
