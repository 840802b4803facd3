import ApiClient.Proofs.Api.Collection
import ApiClient.Proofs.Document.Choice

/-! Pointers in the data of a document, and where the methods for it take their parts
from. A pointer is followed, except where the data beside it is read as a part of its own:
then the pointer is lost. -/

namespace ApiClient

/-! ## Request bodies -/

/-- An endpoint sends the content of a request body. -/
def RequestBody.Describes (space : Option Text) (body : RequestBody) (endpoint : Endpoint) : Prop :=
  ∃ contentType, body.content? space = .ok (contentType, endpoint.bodyType) ∧
    endpoint.contentType = some contentType

/-- The endpoint of an operation with a pointer for its request body sends the content
that stands beside the pointer where this is read as a body, and otherwise the content
to which the pointer leads. -/
def SendsBody (document : Document) (space : Option Text) (operation : Value)
    (endpoint : Endpoint) : Prop :=
  ∀ pointer, (operation.under "requestBody").field? "$ref" = some (.text pointer) →
    (∀ body, RequestBody.Fits (operation.under "requestBody") body →
      body.Describes space endpoint) ∧
    ((∀ body, ¬ RequestBody.Fits (operation.under "requestBody") body) →
      ∃ body, document.requestBodyShelf.Ends (.reference pointer) (.ok body) ∧
        body.Describes space endpoint)

/-- The data of the operations of a document. -/
def Value.operationNodes (value : Value) : List Value :=
  (value.under "paths").members.flatMap fun item => item.2.operations.map (·.2)

section

variable {document : Document} {space : Option Text} {placed : PlacedOperation}
  {endpoint : Endpoint}

private theorem PlacedOperation.describes_of_endpoint
    (succeeds : placed.endpoint document space = .ok endpoint) {node : OrReference RequestBody}
    (given : placed.operation.requestBody = some node) :
    ∃ body, document.requestBodyShelf.Ends node (.ok body) ∧ body.Describes space endpoint := by
  simp only [endpoint_eq, bind_eq_ok_iff, mapError_eq_ok_iff, pure_eq_ok_iff] at succeeds
  obtain ⟨_, _, _, _, _, _, body, ofBody, content, ofContent, rfl⟩ := succeeds
  rw [given] at ofBody
  obtain ⟨found, resolved, rfl⟩ := exists_of_map_eq_ok ofBody
  obtain ⟨⟨contentType, type⟩, read, rfl⟩ := exists_of_map_eq_ok ofContent
  exact ⟨found, Shelf.resolve_eq_iff.mp resolved, contentType, read, rfl⟩

private theorem Operation.IsReadFrom.exists_body {value : Value} {operation : Operation}
    (origin : operation.IsReadFrom value) {pointer : Text}
    (pointed : (value.under "requestBody").field? "$ref" = some (.text pointer)) :
    ∃ node, operation.requestBody = some node ∧ BodyOrigin (value.under "requestBody") node := by
  have present : value.under "requestBody" ≠ .null := by
    intro absent
    rw [absent] at pointed
    cases pointed
  have alike := origin.requestBody
  rw [Value.given_eq present] at alike
  cases given : operation.requestBody with
  | none =>
      rw [given] at alike
      cases alike
  | some node =>
      rw [given] at alike
      exact ⟨node, rfl, (List.forall₂_cons.mp alike).1⟩

private theorem Document.IsReadFrom.operationNodes {value : Value}
    (origin : document.IsReadFrom value) :
    List.Forall₂ (fun data placed => placed.operation.IsReadFrom data) value.operationNodes
      document.placedOperations := by
  refine List.rel_flatMap origin.paths ?_
  rintro item result ⟨-, ofItem⟩
  exact List.rel_map (fun _ _ alike => alike.2) ofItem.operations

/-- What an endpoint sends comes from where the data of its operation says. -/
theorem PlacedOperation.sendsBody {value : Value} (origin : placed.operation.IsReadFrom value)
    (succeeds : placed.endpoint document space = .ok endpoint) :
    SendsBody document space value endpoint := by
  intro pointer pointed
  obtain ⟨node, given, ofNode⟩ := origin.exists_body pointed
  obtain ⟨body, ends, describes⟩ := describes_of_endpoint succeeds given
  have chosen := ofNode.choice pointer pointed
  constructor
  · intro own isFit
    rw [(chosen.direct own).mpr isFit] at ends
    have same : Except.ok own = .ok body := Shelf.resolve_eq_iff.mpr ends
    cases same
    exact describes
  · intro noFit
    rw [chosen.reference.mpr noFit] at ends
    exact ⟨body, ends, describes⟩

end

namespace Document

/-- Where a document is valid, every node with a pointer is a reference with this pointer,
except for parameters that are complete beside the pointer, and for request bodies that are
detailed. The endpoints send what the references lead to, or what stands beside the pointers. -/
theorem pointers_chosen {value : Value} {document : Document} (json : value.IsJson)
    (valid : validate value = .ok document) :
    List.Forall₂ ParameterChoice value.parameterNodes document.parameterNodes ∧
    List.Forall₂ BodyChoice value.bodyNodes document.bodyNodes ∧
    ∀ space endpoints, (document.endpoints space).outcome = .ok endpoints →
      List.Forall₂ (SendsBody document space) value.operationNodes endpoints := by
  obtain ⟨fields, isExact, accepted⟩ := accepted_of_validate valid
  have origin := (ensures_document json).of_accepted accepted
  refine ⟨origin.parameterNodes.imp fun _ _ => ParameterOrigin.choice,
    origin.bodyNodes.imp fun _ _ => BodyOrigin.choice, fun space endpoints succeeds => ?_⟩
  rw [Document.endpoints, outcome_endpointsOf] at succeeds
  refine (forall₂_comp origin.operationNodes (mapM_eq_ok_iff.mp succeeds)).imp ?_
  rintro data endpoint ⟨placed, ofOperation, succeeds⟩
  exact placed.sendsBody ofOperation succeeds

/-- The data of a document with one operation, the request body of which has a pointer to a
component. -/
def withBody (parameters : List Value) (siblings : List (Value × Value)) : Value :=
  .map [
    (.text "openapi", .text "3.0.0"),
    (.text "paths", .map [(.text "/a", .map [(.text "post", .map [
      (.text "operationId", .text "p"),
      (.text "tags", .list [.text "t"]),
      (.text "parameters", .list parameters),
      (.text "requestBody", .map
        ((.text "$ref", .text "#/components/requestBodies/B") :: siblings))])])]),
    (.text "components", .map [(.text "requestBodies", .map [(.text "B", .map [
      (.text "content", .map [(.text "text/plain", .map [
        (.text "schema", .map [(.text "type", .text "string")])])])])])])]

/-- A parameter that is complete beside its pointer, and a request body that has one field there. -/
def siblings : Value :=
  withBody
    [.map [
      (.text "$ref", .text "#/components/parameters/P"),
      (.text "name", .text "n"),
      (.text "in", .text "query")]]
    [(.text "description", .text "d")]

theorem pointers_chosen_siblings : siblings.IsJson ∧ ∃ document endpoint,
    validate siblings = .ok document ∧
    document.parameterNodes = [.direct { name := "n", location := "query" }] ∧
    document.bodyNodes.head? = some (.reference "#/components/requestBodies/B") ∧
    (document.endpoints none).outcome = .ok [endpoint] ∧ endpoint.bodyType = some "string" ∧
    List.Forall₂ ParameterChoice siblings.parameterNodes document.parameterNodes ∧
    List.Forall₂ BodyChoice siblings.bodyNodes document.bodyNodes ∧
    List.Forall₂ (SendsBody document none) siblings.operationNodes [endpoint] := by
  have json : siblings.IsJson := by simp [siblings, withBody, Text.ofString_inj]
  have ⟨ofParameters, ofBodies, ofEndpoints⟩ := pointers_chosen json rfl
  exact ⟨json, _, _, rfl, rfl, rfl, rfl, rfl, ofParameters, ofBodies, ofEndpoints none _ rfl⟩

/-- Two fields beside the pointer of a request body are read as a body. The pointer is lost
then, and with it the type of the data. -/
theorem pointers_lost : ∃ value document endpoint,
    value = withBody [] [(.text "description", .text "d"), (.text "required", .bool true)] ∧
    value.IsJson ∧ validate value = .ok document ∧
    value.bodyNodes.map (·.field? "$ref") =
      [some (.text "#/components/requestBodies/B"), none] ∧
    document.bodyNodes.head? = some (.direct { description := some "d", required := some true }) ∧
    (document.endpoints none).outcome = .ok [endpoint] ∧ endpoint.bodyType = none := by
  refine ⟨_, _, _, rfl, ?_, rfl, rfl, rfl, rfl, rfl⟩
  simp [withBody, Text.ofString_inj]

end Document

end ApiClient
