import ApiClient.Proofs.Document.Names
import ApiClient.Proofs.Document.Values

/-! The parts of a schema, down to any depth. What holds of a schema and is handed down to its
element schema and its property schemas holds of all its parts. -/

namespace ApiClient

/-- A value without parts. -/
def Value.isScalar : Value → Bool
  | .null | .bool _ | .int _ | .real _ | .text _ => true
  | _ => false

/-- A schema is a part of itself, and so are the parts of its element schema and of its property
schemas. -/
inductive Node.IsPartOf (part : Node) : Node → Prop where
  | self : IsPartOf part part
  | item {facets : Facets} {node : Node} {properties : Option (List (Text × Node))}
      (within : IsPartOf part node) : IsPartOf part (.inline facets (some node) properties)
  | property {facets : Facets} {items : Option Node} {fields : List (Text × Node)}
      {field : Text × Node} (member : field ∈ fields) (within : IsPartOf part field.2) :
      IsPartOf part (.inline facets items (some fields))

/-- Wherever a schema enumerates values, they are scalars. -/
def Node.HasScalarMembers (tree : Node) : Prop :=
  ∀ facets items properties, Node.IsPartOf (.inline facets items properties) tree →
    ∀ members ∈ facets.members, ∀ member ∈ members, member.isScalar

theorem Node.HasScalarMembers.inline {facets : Facets} {items : Option Node}
    {properties : Option (List (Text × Node))}
    (members : ∀ values ∈ facets.members, ∀ value ∈ values, value.isScalar)
    (ofItems : ∀ node ∈ items, node.HasScalarMembers)
    (ofProperties : ∀ fields ∈ properties, ∀ field ∈ fields, field.2.HasScalarMembers) :
    Node.HasScalarMembers (.inline facets items properties) := by
  intro facets items properties part
  cases part with
  | self => exact members
  | item within => exact ofItems _ rfl _ _ _ within
  | property member within => exact ofProperties _ rfl _ member _ _ _ within

theorem Node.HasScalarMembers.reference (pointer : Text) :
    Node.HasScalarMembers (.reference pointer) := by
  intro facets items properties part
  cases part

namespace Node.IsPartOf

variable {part whole tree : Node}

private theorem trans (inner : part.IsPartOf whole) (outer : whole.IsPartOf tree) :
    part.IsPartOf tree := by
  induction outer with
  | self => exact inner
  | item _ induction => exact .item induction
  | property member _ induction => exact .property member induction

theorem hasPlainNames (within : part.IsPartOf tree) (names : tree.HasPlainNames) :
    part.HasPlainNames := by
  induction within with
  | self => exact names
  | item _ induction => exact induction (names.items _ rfl)
  | property member _ induction => exact induction (names.properties _ rfl _ member)

theorem hasJsonValues (within : part.IsPartOf tree) (json : tree.HasJsonValues) :
    part.HasJsonValues := by
  induction within with
  | self => exact json
  | item _ induction =>
      obtain _ | ⟨_, ofItems, _⟩ := json
      exact induction (ofItems _ rfl)
  | property member _ induction =>
      obtain _ | ⟨_, _, ofProperties⟩ := json
      exact induction (ofProperties _ rfl _ member)

theorem hasScalarMembers (within : part.IsPartOf tree) (scalars : tree.HasScalarMembers) :
    part.HasScalarMembers :=
  fun facets items properties inPart => scalars facets items properties (inPart.trans within)

end Node.IsPartOf

end ApiClient
