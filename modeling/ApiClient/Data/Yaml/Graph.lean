import ApiClient.Data.Yaml.Fault
import ApiClient.Data.Yaml.Tag

/-! Nodes by number. A node names its parts by their numbers, so one node can be a part of several
others, and of itself. Merging gives mappings entries of others. -/

namespace ApiClient.Yaml

inductive Content where
  | scalar (text : Text)
  | list (items : List Nat)
  | map (entries : List (Nat × Nat))
  deriving DecidableEq, Repr

structure Node where
  tag : Tag
  content : Content
  deriving DecidableEq, Repr

abbrev Graph := Array Node

namespace Graph

def tagOf (graph : Graph) (number : Nat) : Tag :=
  (graph[number]?.map Node.tag).getD .other

def contentOf (graph : Graph) (number : Nat) : Content :=
  (graph[number]?.map Node.content).getD (.scalar [])

def setEntries (graph : Graph) (number : Nat) (entries : List (Nat × Nat)) : Graph :=
  graph.modify number fun node => { node with content := .map entries }

/-- A key tagged as the one for values is a plain text. -/
def setPlainKey (graph : Graph) (key : Nat) : Graph :=
  if graph.tagOf key = .value then graph.modify key fun node => { node with tag := .str } else graph

/-! ## Merging

A mapping takes over the entries of the mappings under its merge keys. They come before its own; of
several mappings under one key, the first counts most, and so comes last. Every merge key is taken
out of its mapping before what it leads to is looked at, so that a mapping can lead to itself. -/

/-- The entries before the first merge key, the value under that key, and the entries after it. -/
def splitMerge (graph : Graph) :
    List (Nat × Nat) → Option (List (Nat × Nat) × Nat × List (Nat × Nat))
  | [] => none
  | (key, value) :: rest =>
    if graph.tagOf key = .merge then some ([], value, rest)
    else
      (splitMerge graph rest).map fun (before, merged, after) =>
        ((key, value) :: before, merged, after)

def entriesOf (graph : Graph) (number : Nat) : Except Fault (List (Nat × Nat)) :=
  match graph.contentOf number with
  | .map entries => .ok entries
  | _ => .error .construction

/-- The mappings under a merge key. -/
def mergeSources (graph : Graph) (value : Nat) : Except Fault (List Nat) :=
  match graph.contentOf value with
  | .map _ => .ok [value]
  | .list items => .ok items
  | .scalar _ => .error .construction

/-- How many merge keys there are. -/
def mergeCount (graph : Graph) : Nat :=
  graph.foldl (fun count node =>
    match node.content with
    | .map entries => count + (entries.filter fun entry => graph.tagOf entry.1 = .merge).length
    | _ => count) 0

/-- Put the entries taken over before those of a mapping without merge keys. -/
def completed (graph : Graph) (number : Nat) (taken : List (Nat × Nat)) : Except Fault Graph := do
  let entries ← graph.entriesOf number
  let graph := graph.setEntries number (taken ++ entries)
  return entries.foldl (fun graph entry => graph.setPlainKey entry.1) graph

/-- Merge into a mapping what it takes over. The fuel is at least the number of merge keys left. -/
def mergeWith : (fuel : Nat) → Nat → List (Nat × Nat) → Graph → Except Fault Graph
  | 0, number, taken, graph => graph.completed number taken
  | fuel + 1, number, taken, graph => do
    match splitMerge graph (← graph.entriesOf number) with
    | none => graph.completed number taken
    | some (before, merged, after) =>
      let graph := graph.setEntries number (before ++ after)
      let sources ← graph.mergeSources merged
      let ⟨more, graph⟩ ← sources.foldlM (fun (more, graph) source => do
        let graph ← mergeWith fuel source [] graph
        return ((← graph.entriesOf source) ++ more, graph)) ([], graph)
      mergeWith fuel number (taken ++ more) graph

end Graph

end ApiClient.Yaml
