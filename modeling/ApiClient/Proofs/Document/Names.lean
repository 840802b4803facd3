import ApiClient.Api.Collection
import Mathlib.Tactic.MkIffOfInductiveProp

/-! Documents whose names can stand in code as they are: those of their schemas, those by which
schemas are referred to, and those of the parameters that travel in a path. -/

namespace ApiClient

mutual

/-- The pointers by which a node, or a part of it, refers to other schemas. -/
def Node.pointers : Node → List Text
  | .reference pointer => [pointer]
  | .inline _ items properties => itemPointers items ++ propertyPointers properties

def itemPointers : Option Node → List Text
  | none => []
  | some node => node.pointers

def propertyPointers : Option (List (Text × Node)) → List Text
  | none => []
  | some properties => fieldPointers properties

def fieldPointers : List (Text × Node) → List Text
  | [] => []
  | (_, node) :: rest => node.pointers ++ fieldPointers rest

end

def Node.HasPlainNames (node : Node) : Prop :=
  ∀ pointer ∈ node.pointers, isIdentifier (componentName pointer)

private theorem mem_fieldPointers {fields : List (Text × Node)} {field : Text × Node}
    (member : field ∈ fields) {pointer : Text} (inField : pointer ∈ field.2.pointers) :
    pointer ∈ fieldPointers fields := by
  induction fields with
  | nil => cases member
  | cons first rest induction =>
      rw [fieldPointers]
      rcases List.mem_cons.mp member with rfl | member
      · exact List.mem_append_left _ inField
      · exact List.mem_append_right _ (induction member)

theorem Node.HasPlainNames.items {facets : Facets} {items : Option Node}
    {properties : Option (List (Text × Node))}
    (names : HasPlainNames (.inline facets items properties)) :
    ∀ node ∈ items, node.HasPlainNames := by
  rintro node ⟨⟩ pointer inNode
  exact names pointer (List.mem_append_left _ inNode)

theorem Node.HasPlainNames.properties {facets : Facets} {items : Option Node}
    {properties : Option (List (Text × Node))}
    (names : HasPlainNames (.inline facets items properties)) :
    ∀ fields ∈ properties, ∀ field ∈ fields, field.2.HasPlainNames := by
  rintro fields ⟨⟩ field member pointer inField
  exact names pointer (List.mem_append_right _ (mem_fieldPointers member inField))

/-- What is given in place has a property, where a property of parts is known. -/
def OrReference.Satisfies {α : Type} (property : α → Prop) : OrReference α → Prop
  | .reference _ => True
  | .direct part => property part

@[mk_iff]
structure Parameter.HasPlainNames (parameter : Parameter) : Prop where
  name : parameter.location = "path" → isIdentifier parameter.name
  schema : ∀ node ∈ parameter.schema, node.HasPlainNames

def RequestBody.HasPlainNames (body : RequestBody) : Prop :=
  ∀ media ∈ body.content.getD [], ∀ node ∈ media.2.schema, node.HasPlainNames

@[mk_iff]
structure Operation.HasPlainNames (operation : Operation) : Prop where
  parameters : ∀ parameter ∈ operation.parameters.getD [],
    parameter.Satisfies Parameter.HasPlainNames
  requestBody : ∀ body ∈ operation.requestBody, body.Satisfies RequestBody.HasPlainNames

@[mk_iff]
structure PathItem.HasPlainNames (item : PathItem) : Prop where
  parameters : ∀ parameter ∈ item.parameters.getD [], parameter.Satisfies Parameter.HasPlainNames
  operations : ∀ operation ∈ item.operations, operation.2.HasPlainNames

@[mk_iff]
structure Components.HasPlainNames (components : Components) : Prop where
  schemas : ∀ schema ∈ components.schemas.getD [],
    isIdentifier schema.1 ∧ schema.2.HasPlainNames
  parameters : ∀ parameter ∈ components.parameters.getD [],
    parameter.2.Satisfies Parameter.HasPlainNames
  requestBodies : ∀ body ∈ components.requestBodies.getD [],
    body.2.Satisfies RequestBody.HasPlainNames

@[mk_iff]
structure Document.HasPlainNames (document : Document) : Prop where
  paths : ∀ item ∈ document.paths.getD [], item.2.HasPlainNames
  components : ∀ components ∈ document.components, components.HasPlainNames

end ApiClient
