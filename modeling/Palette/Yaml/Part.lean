import Palette.Yaml.Merge

/-!
# What is made of the nodes of a document

Scalars make values, and collections make collections of places (`Part`).  A node makes
the same part wherever it stands.

Parts are made from the root on: first the root's, then those of what it holds, and so
on, in the order in which they were met.  So of several faults the first one that this
order meets counts.  What a collection holds is looked at in its turn, later than what
stands beside it.
-/

namespace Palette.Yaml

/-! ## Scalars -/

/-- The tags of collections. -/
def Tag.isCollection : Tag → Bool
  | .sequence | .mapping | .set | .pairs => true
  | _ => false

/-- The tags of scalars. -/
def Tag.isScalar : Tag → Bool
  | .null | .bool | .int | .float | .binary | .time | .text => true
  | _ => false

/-- The text of a node that is to be a scalar: its own, or that of the default value of a
mapping.  `fuel` bounds the mappings inside each other. -/
def Graph.scalarText? (graph : Graph) : Nat → Place → Option String
  | 0, _ => none
  | fuel + 1, place =>
    match graph.node place with
    | .scalar _ text => some text
    | .mapping _ entries =>
      (entries.find? fun entry => graph.tag entry.1 == .default).bind fun entry =>
        graph.scalarText? fuel entry.2
    | .sequence _ _ => none

/-- The text of a node that is to be a scalar. -/
def Graph.text? (graph : Graph) (place : Place) : Option String :=
  graph.scalarText? (graph.size + 1) place

/-- The value of a node under the tag of a scalar. -/
def Graph.scalarValue (graph : Graph) (place : Place) : Except Fault Value :=
  match graph.text? place, graph.node place with
  | none, _ => refuse "expected a scalar node"
  | some _, .mapping .time _ => .error (.impossible .collectionMoment)
  | some text, node => Yaml.scalarValue node.tag text

/-! ## Keys -/

/-- A key with what tells it from others. -/
structure Key where
  value : Value
  place : Place
  /-- It is the mark of what is not a number. -/
  isNanMark : Bool

namespace Key

/-- Keys are the same as in all data.  Besides, all marks of what is not a number are one
key, and so are all places that mean one node. -/
def same (left right : Key) : Bool :=
  Value.sameKey left.value right.value || (left.isNanMark && right.isNanMark) ||
    left.place == right.place

/-- A key is the same as itself, even if it is not a number. -/
@[simp] theorem same_self (key : Key) : key.same key = true := by
  simp [same]

end Key

/-- The key that a value is in a place. -/
def Graph.key (graph : Graph) (place : Place) (value : Value) : Key :=
  { value
    place
    isNanMark :=
      match value with
      | .float .nan => (graph.text? place).any isNanMark
      | _ => false }

/-! ## Parts -/

/-- What is made of a node: a value, or a collection of what is made in other places. -/
inductive Part where
  | scalar (value : Value)
  | list (items : List Place)
  | pairs (entries : List Entry)
  | mapping (entries : List (Key × Place))
  | set (keys : List Key)

/-- The parts by their places. -/
abbrev Parts := Array (Option Part)

/-- The part in a place, if one is made or waits to be. -/
def Parts.part? (parts : Parts) (place : Place) : Option Part :=
  (parts[place]?).join

/-- The state of making: the nodes, the parts so far, and the places of collections whose
turn comes later, the latest first. -/
structure Making where
  graph : Graph
  parts : Parts
  waiting : List Place

/-- A step of making. -/
abbrev Maker := StateT Making (Except Fault)

namespace Maker

/-- Refuses the document. -/
def refuse {α : Type} (problem : String) : Maker α :=
  throw (.malformed problem)

/-- The node in a place. -/
def node (place : Place) : Maker Node :=
  return (← get).graph.node place

/-- Puts a part in a place. -/
def put (place : Place) (part : Part) : Maker Unit :=
  modify fun making => { making with parts := making.parts.setIfInBounds place (some part) }

/-- Lets a collection wait for its turn, empty until then. -/
def await (place : Place) : Maker Unit := do
  put place (.list [])
  modify fun making => { making with waiting := place :: making.waiting }

/-- Changes the graph. -/
def change {α : Type} (step : Change α) : Maker α := do
  let making ← get
  let (result, graph) ← (step.run making.graph : Except Fault _)
  set { making with graph }
  return result

/-- Makes the part in a place, unless it was met before.  A collection only waits. -/
def visit (place : Place) : Maker Unit := do
  let making ← get
  if (making.parts.part? place).isSome then return
  else
    let tag := making.graph.tag place
    if tag.isCollection then await place
    else if tag.isScalar then
      let value ← (making.graph.scalarValue place : Except Fault Value)
      put place (.scalar value)
    else refuse "could not determine a constructor for the tag"

/-- Makes the part in the place of a key, which has to be a scalar. -/
def visitKey (place : Place) : Maker Key := do
  if (← get).graph.tag place |>.isCollection then refuse "found unhashable key"
  else
    visit place
    let making ← get
    match making.parts.part? place with
    | some (.scalar value) => return making.graph.key place value
    | _ => refuse "found unhashable key"

/-- Makes the parts of the entries of the mapping in a place, after merging.  Of entries
with the same key the last one counts, in the place of the first. -/
def visitEntries (fuel : Nat) (place : Place) : Maker (List (Key × Place)) := do
  let entries ← change (mergedEntries fuel place)
  let keyed ← entries.mapM fun (key, value) => do
    let key ← visitKey key
    visit value
    return (key, value)
  return Value.collect Key.same keyed

/-- Makes the parts of the one entry of a mapping that stands for a pair. -/
def visitPair (place : Place) : Maker Entry := do
  match ← node place with
  | .mapping _ [(key, value)] =>
    visit key
    visit value
    return (key, value)
  | _ => refuse "expected a mapping of length 1"

/-- Makes the collection in a place, whose turn has come. -/
def expand (fuel : Nat) (place : Place) : Maker Unit := do
  match ← node place with
  | .sequence .sequence items =>
    items.forM visit
    put place (.list items)
  | .sequence .pairs items => put place (.pairs (← items.mapM visitPair))
  | .mapping .mapping _ => put place (.mapping (← visitEntries fuel place))
  | .mapping .set _ => put place (.set ((← visitEntries fuel place).map Prod.fst))
  | _ => refuse "expected another kind of collection"

/-- Makes all collections that wait, and those that wait because of them, for so many
rounds. -/
def expandAll (fuel : Nat) : Nat → Maker Unit
  | 0 => pure ()
  | rounds + 1 => do
    let waiting := (← get).waiting
    if waiting.isEmpty then pure ()
    else
      modify fun making => { making with waiting := [] }
      waiting.reverse.forM (expand fuel)
      expandAll fuel rounds

end Maker

/-- The parts of a node and of all that it holds.  Merging takes out one entry at each
step, and a collection waits only once, so that no more rounds are needed than there are
nodes. -/
def Graph.parts (graph : Graph) (root : Place) : Except Fault Parts :=
  let start : Making := ⟨graph, Array.replicate graph.size none, []⟩
  let all : Maker Unit := do
    Maker.visit root
    Maker.expandAll (graph.entryCount + 1) (graph.size + 1)
  (all.run start).map fun (_, making) => making.parts

end Palette.Yaml
