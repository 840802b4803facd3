import ApiClient.Data.Yaml.Graph
import ApiClient.Data.Yaml.ScalarValue

/-! What the nodes of a text are, as their tags say: scalars with their values, and collections of
other objects, which they name by their numbers.

Of several faults in a text, one is reported. Objects are therefore made level by level: the scalars
of a collection before anything inside the collections next to them. -/

namespace ApiClient.Yaml

inductive Object where
  | plain (value : Value)
  | list (items : List Nat)
  | tuple (items : List Nat)
  | map (entries : List (Value × Nat))
  | set (members : List Value)
  deriving Repr

/-! ## Scalars -/

/-- The text of a node that should be a scalar. A mapping can have one under the key for values,
which must not lead back to the mapping. -/
def scalarText (graph : Graph) : (fuel : Nat) → Nat → Except Fault Text
  | 0, _ => .error .endless
  | fuel + 1, number =>
    match graph.contentOf number with
    | .scalar text => .ok text
    | .list _ => .error .construction
    | .map entries =>
      match entries.find? fun (key, _) => graph.tagOf key = .value with
      | some (_, value) => scalarText graph fuel value
      | none => .error .construction

def textOf (graph : Graph) (number : Nat) : Except Fault Text :=
  scalarText graph (graph.size + 1) number

/-- The value of a node with the tag of a scalar. -/
def plainValue (graph : Graph) (number : Nat) : Except Fault (Option Value) := do
  match graph.tagOf number with
  | .null =>
    let _ ← textOf graph number
    return some .null
  | .bool => some <$> boolValue (← textOf graph number)
  | .int => some <$> intValue (← textOf graph number)
  | .float => some <$> floatValue (← textOf graph number)
  | .binary => some <$> binaryValue (← textOf graph number)
  | .timestamp =>
    let _ ← textOf graph number
    match graph.contentOf number with
    | .scalar text => some <$> momentValue text
    | _ => throw .momentInside
  | .str => (fun text => some (.text text)) <$> textOf graph number
  | .merge | .value | .other => throw .construction
  | .omap | .pairs | .set | .seq | .map => return none

/-! ## Making objects -/

/-- The nodes, the objects made of them so far, and the collections in the order in which they were
met. Objects that are made of no node of their own have the numbers after those of the nodes. -/
structure Workshop where
  graph : Graph
  mergeLimit : Nat
  objects : Array (Option Object)
  met : Array Nat := #[]

abbrev Making := StateT Workshop (Except Fault)

namespace Making

/-- Meet a node: a scalar is made at once, a collection when its turn comes. -/
def meet (number : Nat) : Making Unit := do
  let ⟨graph, _, objects, _⟩ ← get
  if (objects[number]?.bind id).isSome then return ()
  else
    match ← plainValue graph number with
    | some value =>
      modify fun shop =>
        { shop with objects := shop.objects.setIfInBounds number (some (.plain value)) }
    | none =>
      modify fun shop =>
        { shop with
          objects := shop.objects.setIfInBounds number (some (.list []))
          met := shop.met.push number }

def finish (number : Nat) (object : Object) : Making Unit :=
  modify fun shop => { shop with objects := shop.objects.setIfInBounds number (some object) }

/-! Two keys that are no numbers are the same if they come from one node, or if both are written
with the word for it. -/

/-- A key with a mark by which one that is no number is known. -/
structure Key where
  value : Value
  mark : Option Nat

def Key.isSame (a b : Key) : Bool :=
  match a.value, b.value with
  | .real .notANumber, .real .notANumber => a.mark == b.mark
  | x, y => x.sameKey y

def putKey (key : Key) (value : Nat) : List (Key × Nat) → List (Key × Nat)
  | [] => [(key, value)]
  | entry :: rest =>
    if entry.1.isSame key then (entry.1, value) :: rest else entry :: putKey key value rest

def isNanWord (graph : Graph) (number : Nat) : Bool :=
  match textOf graph number >>= signedWord with
  | .ok (_, word) => word == nanWord
  | .error _ => false

/-- A key must be a scalar. -/
def keyOf (number : Nat) : Making Key := do
  meet number
  let ⟨graph, _, objects, _⟩ ← get
  match objects[number]?.bind id with
  | some (.plain value) =>
    return ⟨value, if isNanWord graph number then none else some number⟩
  | _ => throw .construction

def entriesOf (entries : List (Nat × Nat)) : Making (List (Value × Nat)) := do
  let entries ← entries.foldlM (fun done (key, value) => do
    let key ← keyOf key
    meet value
    return putKey key value done) []
  return entries.map fun (key, value) => (key.value, value)

/-- A mapping after merging. -/
def mappingOf (number : Nat) : Making (List (Value × Nat)) := do
  let ⟨graph, mergeLimit, _, _⟩ ← get
  let _ ← graph.entriesOf number
  let graph ← Graph.mergeWith mergeLimit number [] graph
  modify fun shop => { shop with graph }
  entriesOf (← graph.entriesOf number)

/-- A pair is written as a mapping of one entry. -/
def pairOf (item : Nat) : Making Nat := do
  match (← get).graph.contentOf item with
  | .map [(key, value)] =>
    meet key
    meet value
    let number := (← get).objects.size
    modify fun shop => { shop with objects := shop.objects.push (some (.tuple [key, value])) }
    return number
  | _ => throw .construction

def make (number : Nat) : Making Unit := do
  let ⟨graph, _, _, _⟩ ← get
  match graph.tagOf number, graph.contentOf number with
  | .seq, .list items =>
    items.forM meet
    finish number (.list items)
  | .omap, .list items | .pairs, .list items =>
    finish number (.list (← items.mapM pairOf))
  | .map, .map _ => finish number (.map (← mappingOf number))
  | .set, .map _ => finish number (.set ((← mappingOf number).map (·.1)))
  | _, _ => throw .construction

/-- Make the collections that are met, from one of them on. -/
def makeFrom : (fuel : Nat) → Nat → Making Unit
  | 0, _ => return ()
  | fuel + 1, position => do
    match (← get).met[position]? with
    | none => return ()
    | some number =>
      make number
      makeFrom fuel (position + 1)

end Making

/-- The objects of nodes, as far as the root leads to them. No collection is met twice. -/
def objectsOf (graph : Graph) (root : Nat) : Except Fault (Array (Option Object)) := do
  let shop : Workshop :=
    { graph, mergeLimit := graph.mergeCount, objects := Array.replicate graph.size none }
  let making : Making Unit := do
    Making.meet root
    Making.makeFrom (graph.size + 1) 0
  return (← making.run shop).2.objects

end ApiClient.Yaml
