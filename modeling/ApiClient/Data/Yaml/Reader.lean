import ApiClient.Data.Yaml.Node
import ApiClient.Data.Yaml.Object

/-! Reading YAML. The nodes of a text become objects, and these become values. An object that it
takes to reach itself is a cycle. -/

namespace ApiClient.Yaml

/-! ## Values -/

/-- The values of objects that are parts of no cycle still open. -/
abbrev Values := Array (Option Value)

/-- A value, and the cycles open around it that it takes part in. -/
structure Part where
  value : Value
  cycles : List Nat

def Part.all (parts : List Part) : List Nat :=
  parts.foldl (fun cycles part => cycles ++ part.cycles.filter (!cycles.contains ·)) []

def Object.shape : Object → Shape
  | .tuple _ => .tuple
  | .map _ => .map
  | _ => .list

def Object.parts : Object → List Nat
  | .plain _ | .set _ => []
  | .list items | .tuple items => items
  | .map entries => entries.map (·.2)

/-- The value of an object, given the values of its parts. -/
def Object.value (parts : List Value) : Object → Value
  | .plain value => value
  | .set members => .set members
  | .list _ => .list parts
  | .tuple _ => .tuple parts
  | .map entries => .map ((entries.map (·.1)).zip parts)

/-- The value of an object within others that are not complete. The fuel bounds how many of these
there can be. -/
def partOf (objects : Array (Option Object)) :
    (fuel : Nat) → (around : List Nat) → Nat → StateM Values Part
  | 0, _, _ => return ⟨.null, []⟩
  | fuel + 1, around, number => do
    match ((← get)[number]?).bind id, (objects[number]?).bind id with
    | some value, _ => return ⟨value, []⟩
    | none, none => return ⟨.null, []⟩
    | none, some object =>
      if around.contains number then return ⟨.again number object.shape, [number]⟩
      else
        let parts ← object.parts.mapM (partOf objects fuel (number :: around))
        let value := object.value (parts.map Part.value)
        let cycles := Part.all parts
        let value := if cycles.isEmpty then value else .cycle number value
        let cycles := cycles.filter (· != number)
        if cycles.isEmpty then
          modify fun values => values.setIfInBounds number (some value)
        return ⟨value, cycles⟩

def valueOf (objects : Array (Option Object)) (root : Nat) : Value :=
  let (part, _) := (partOf objects (objects.size + 1) [] root).run
    (Array.replicate objects.size none)
  part.value

/-! ## Texts -/

/-- Characters that may stand in a text. -/
def isPrintable (c : Char) : Bool :=
  let code := c.toNat
  c == '\t' || c == '\n' || c == '\r' || (0x20 ≤ code && code ≤ 0x7e) || code == 0x85 ||
    (0xa0 ≤ code && code ≤ 0xd7ff) || (0xe000 ≤ code && code ≤ 0xfffd) || 0x10000 ≤ code

/-- The value of a text. The empty text is null. -/
def read (characters : List Char) : Except Fault Value := do
  if !characters.all isPrintable then throw .character
  match ← graphOf characters with
  | (none, _) => return .null
  | (some root, graph) => return valueOf (← objectsOf graph root) root

end ApiClient.Yaml
