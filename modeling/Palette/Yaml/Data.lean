import Palette.Yaml.Document
import Palette.Yaml.Part

/-!
# The data of a YAML text

`read` gives the value that a whole text spells.

A collection may hold itself.  Inside itself it is written out only as deep as theme
data go, and below that stands for an empty one.  Other collections may lie inside each other
without a limit.

Texts are made of characters, so an escape for one half of a pair is read as the replacement
character U+FFFD, also where the other half follows.
-/

namespace Palette.Yaml

/-- How deep a collection is written out inside itself: as deep as the colors of shades
lie in theme data. -/
def selfDepth : Nat := 5

/-- The same part without what it holds. -/
def Part.hollow : Part → Part
  | .scalar value => .scalar value
  | .list _ => .list []
  | .pairs _ => .pairs []
  | .mapping _ => .mapping []
  | .set _ => .set []

/-- The value in a place at a depth.  `around` holds the places of the collections around
it, and `fuel` bounds the collections inside each other. -/
def Parts.value (parts : Parts) : Nat → Nat → List Place → Place → Value
  | 0, _, _, _ => .null
  | fuel + 1, depth, around, place =>
    match parts.part? place with
    | none => .null
    | some found =>
      let part := if around.contains place && selfDepth ≤ depth then found.hollow else found
      let inner := parts.value fuel (depth + 1) (place :: around)
      match part with
      | .scalar value => value
      | .list items => .list (items.map inner)
      | .pairs entries => .list (entries.map fun (key, value) => .tuple [inner key, inner value])
      | .mapping entries => .mapping (entries.map fun (key, value) => (key.value, inner value))
      | .set keys => .set (keys.map Key.value)

/-- The value of a document.  No collection is written out inside itself deeper than
`selfDepth` allows, so the collections inside each other are not many more than the nodes
of the document. -/
def Document.value (document : Document) : Except Fault Value := do
  let parts ← document.graph.parts document.root
  return parts.value (document.graph.size + selfDepth + 2) 0 [] document.root

/-- The value that a whole text spells, which is null for a text without a
document. -/
def read (characters : List Char) : Except Fault Value := do
  let (tokens, cut) := Stream.tokens characters
  match ← Document.ofTokens? tokens cut with
  | none => return .null
  | some document => document.value

end Palette.Yaml
