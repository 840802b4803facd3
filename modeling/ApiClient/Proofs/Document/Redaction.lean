import ApiClient.Api.Collection

/-! A document without what its descriptions say. Where a schema has a description, or an operation
a summary or a description, that is not empty, a fixed text stands in its place. Two documents that
become equal in this way differ at most in such texts. -/

namespace ApiClient

def redactedText : Option Text → Option Text
  | none => none
  | some [] => some []
  | some (_ :: _) => some "redacted"

def mapValues {α β : Type} (change : α → β) (entries : List (Text × α)) : List (Text × β) :=
  entries.map fun (name, value) => (name, change value)

def OrReference.map {α β : Type} (change : α → β) : OrReference α → OrReference β
  | .reference pointer => .reference pointer
  | .direct part => .direct (change part)

def Facets.redacted (facets : Facets) : Facets :=
  { facets with description := redactedText facets.description }

mutual

def Node.redacted : Node → Node
  | .reference pointer => .reference pointer
  | .inline facets items properties =>
    .inline facets.redacted (redactedItems items) (redactedProperties properties)

def redactedItems : Option Node → Option Node
  | none => none
  | some node => some node.redacted

def redactedProperties : Option (List (Text × Node)) → Option (List (Text × Node))
  | none => none
  | some properties => some (redactedFields properties)

def redactedFields : List (Text × Node) → List (Text × Node)
  | [] => []
  | (name, node) :: rest => (name, node.redacted) :: redactedFields rest

end

theorem redactedFields_eq (fields : List (Text × Node)) :
    redactedFields fields = mapValues Node.redacted fields := by
  induction fields with
  | nil => rfl
  | cons field rest induction =>
      rw [redactedFields, induction]
      rfl

def Parameter.redacted (parameter : Parameter) : Parameter :=
  { parameter with schema := parameter.schema.map Node.redacted }

def MediaType.redacted (media : MediaType) : MediaType :=
  { media with schema := media.schema.map Node.redacted }

def RequestBody.redacted (body : RequestBody) : RequestBody :=
  { body with content := body.content.map (mapValues MediaType.redacted) }

def redactedParameters (parameters : List (OrReference Parameter)) : List (OrReference Parameter) :=
  parameters.map (·.map Parameter.redacted)

def Operation.redacted (operation : Operation) : Operation :=
  { operation with
    summary := redactedText operation.summary
    description := redactedText operation.description
    parameters := operation.parameters.map redactedParameters
    requestBody := operation.requestBody.map (·.map RequestBody.redacted) }

def PathItem.redacted (item : PathItem) : PathItem :=
  { item with
    parameters := item.parameters.map redactedParameters
    operations := mapValues Operation.redacted item.operations }

def Components.redacted (components : Components) : Components where
  schemas := components.schemas.map (mapValues Node.redacted)
  parameters := components.parameters.map (mapValues (·.map Parameter.redacted))
  requestBodies := components.requestBodies.map (mapValues (·.map RequestBody.redacted))

def Document.redacted (document : Document) : Document :=
  { document with
    paths := document.paths.map (mapValues PathItem.redacted)
    components := document.components.map Components.redacted }

/-! ## What is left

Whether there is a text, and whether it is empty, is not changed. -/

@[simp] theorem redactedText_redactedText (text : Option Text) :
    redactedText (redactedText text) = redactedText text := by
  match text with
  | none => rfl
  | some [] => rfl
  | some (_ :: _) => rfl

theorem getD_redactedParameters (parameters : Option (List (OrReference Parameter))) :
    (parameters.map redactedParameters).getD [] = redactedParameters (parameters.getD []) := by
  cases parameters <;> rfl

theorem redactedText_firstNonempty (first second : Option Text) :
    firstNonempty (redactedText first) (redactedText second) =
      redactedText (firstNonempty first second) := by
  match first with
  | none => rfl
  | some [] => rfl
  | some (_ :: _) => rfl

@[simp] theorem Node.isOptional_redacted (node : Node) :
    isOptional node.redacted = isOptional node := by
  cases node <;> rfl

@[simp] theorem Node.description_redacted (node : Node) :
    node.redacted.description = redactedText node.description := by
  cases node <;> rfl

end ApiClient
