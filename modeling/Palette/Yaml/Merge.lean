import Palette.Yaml.Graph

/-!
# Merged mappings

An entry whose key is the mark of a merge takes in the entries of another mapping, or of
several in a sequence, the last one's first.  They come before the mapping's own entries,
which therefore win.

Merging changes the graph (`mergeAt`).  A merge is taken out before what it names is
merged itself, so a mapping that merges itself finds what is left of it then, and merging
ends: each step takes out one merge.
-/

namespace Palette.Yaml

/-- A change of a graph, or the fault that keeps it from being made. -/
abbrev Change := StateT Graph (Except Fault)

namespace Graph

/-- Whether an entry is a merge. -/
def isMerge (graph : Graph) (entry : Entry) : Bool :=
  graph.tag entry.1 == .merge

/-- The first merge of entries: those in front of it, what it merges, and those behind
it. -/
def firstMerge? (graph : Graph) (entries : List Entry) :
    Option (List Entry × Place × List Entry) :=
  match entries.dropWhile fun entry => !graph.isMerge entry with
  | [] => none
  | (_, merged) :: after => some (entries.takeWhile fun entry => !graph.isMerge entry, merged, after)

/-- The graph in which the mapping in a place has other entries. -/
def setEntries (graph : Graph) (place : Place) (entries : List Entry) : Graph :=
  graph.set place ((graph.node place).withEntries entries)

/-- The graph in which a key is a text if it is the sign of a default value. -/
def withTextKey (graph : Graph) (key : Place) : Graph :=
  if graph.tag key = .default then graph.set key ((graph.node key).withTag .text) else graph

/-- The graph in which all keys of entries that are signs of a default value are texts. -/
def withTextKeys (graph : Graph) (entries : List Entry) : Graph :=
  entries.foldl (fun graph entry => graph.withTextKey entry.1) graph

/-! ## Interface lemmas -/

/-- Without a merge among them there is no first one. -/
theorem firstMerge?_eq_none {graph : Graph} {entries : List Entry}
    (hnone : ∀ entry ∈ entries, graph.isMerge entry = false) :
    graph.firstMerge? entries = none := by
  have hdrop : (entries.dropWhile fun entry => !graph.isMerge entry) = [] := by
    induction entries with
    | nil => rfl
    | cons entry rest ih => simp_all
  simp [firstMerge?, hdrop]

@[simp] theorem size_setEntries (graph : Graph) (place : Place) (entries : List Entry) :
    (graph.setEntries place entries).size = graph.size :=
  size_set graph place _

@[simp] theorem size_withTextKey (graph : Graph) (key : Place) :
    (graph.withTextKey key).size = graph.size := by
  unfold withTextKey
  split <;> simp

@[simp] theorem size_withTextKeys (graph : Graph) (entries : List Entry) :
    (graph.withTextKeys entries).size = graph.size := by
  unfold withTextKeys
  induction entries generalizing graph with
  | nil => rfl
  | cons entry rest ih => rw [List.foldl_cons, ih, size_withTextKey]

end Graph

/-- Merges what the mapping in a place merges.  `merged` holds the entries that it has
taken in, and `fuel` bounds the merges taken out. -/
def mergeAt : Nat → Place → List Entry → Change Unit
  | 0, _, _ => throw (.malformed "nested too deep")
  | fuel + 1, place, merged => do
    let graph ← get
    let entries := (graph.node place).entries
    match graph.firstMerge? entries with
    | none => set ((graph.withTextKeys entries).setEntries place (merged ++ entries))
    | some (before, source, after) =>
      set (graph.setEntries place (before ++ after))
      let ofMapping (place : Place) : Change (List Entry) := do
        mergeAt fuel place []
        return ((← get).node place).entries
      let taken ←
        match (← get).node source with
        | .mapping _ _ => ofMapping source
        | .sequence _ items => do
          let lists ← items.mapM fun item => do
            match (← get).node item with
            | .mapping _ _ => ofMapping item
            | _ => throw (.malformed "expected a mapping for merging")
          pure lists.reverse.flatten
        | .scalar _ _ => throw (.malformed "expected a mapping or list of mappings for merging")
      mergeAt fuel place (merged ++ taken)

/-- The entries of the mapping in a place, after merging.  `fuel` bounds the merges. -/
def mergedEntries (fuel : Nat) (place : Place) : Change (List Entry) := do
  mergeAt fuel place []
  return ((← get).node place).entries

end Palette.Yaml
