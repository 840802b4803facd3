import ApiClient.Proofs.Api.Collection
import ApiClient.Proofs.Document.Origin

/-! The operations that data declares. A document that is read from it has an endpoint for each of
them, in the order of the data. -/

namespace ApiClient

/-- The operations in the data of a document, by path and method. -/
def Value.declaredOperations (value : Value) : List (Text × Text) :=
  (value.under "paths").members.flatMap fun item =>
    item.2.operations.map fun operation => (item.1, operation.1)

namespace Document

/-- Reading keeps every operation in its place. -/
theorem IsReadFrom.map_placedOperations {value : Value} {document : Document}
    (origin : document.IsReadFrom value) :
    document.placedOperations.map (fun placed => (placed.path, placed.method)) =
      value.declaredOperations := by
  rw [placedOperations, Value.declaredOperations, List.map_flatMap, List.flatMap_def,
    List.flatMap_def]
  refine congrArg List.flatten (map_eq_of_forall₂ ?_ origin.paths).symm
  rintro ⟨path, data⟩ ⟨_, item⟩ ⟨rfl, ofItem⟩
  rw [PathItem.map_placedOperations, List.map_map]
  exact map_eq_of_forall₂ (fun _ _ same => congrArg (Prod.mk path) same.1) ofItem.operations

/-- Where the endpoints of a document can be had, they are for exactly the operations in its data,
and in the same order. -/
theorem endpoints_declared {value : Value} {document : Document} (json : value.IsJson)
    (valid : validate value = .ok document) {space : Option Text} {endpoints : List Endpoint}
    (succeeds : (document.endpoints space).outcome = .ok endpoints) :
    endpoints.map (fun endpoint => (endpoint.path, endpoint.method)) =
      value.declaredOperations := by
  obtain ⟨fields, isExact, accepted⟩ := accepted_of_validate valid
  have origin := (ensures_document json).of_accepted accepted
  rw [Document.endpoints, outcome_endpointsOf] at succeeds
  rw [← origin.map_placedOperations]
  have yields := (mapM_eq_ok_iff.mp succeeds).imp fun placed endpoint =>
    PlacedOperation.yields_of_endpoint
  refine (map_eq_of_forall₂ (fun placed endpoint yields => ?_) yields).symm
  exact Prod.ext yields.path.symm yields.method.symm

/-- Two methods of one path, not in the usual order, among members that mean nothing. -/
def twoMethods : Value :=
  .map [
    (.text "openapi", .text "3.0.0"),
    (.text "paths", .map [(.text "/a", .map [
      (.text "x-note", .bool true),
      (.text "post", .map [(.text "operationId", .text "p"), (.text "tags", .list [.text "t"])]),
      (.text "GET", .null),
      (.text "get", .map [(.text "operationId", .text "g"), (.text "tags", .list [.text "t"])])])])]

theorem endpoints_declared_twoMethods : twoMethods.IsJson ∧ ∃ document endpoints,
    validate twoMethods = .ok document ∧ (document.endpoints none).outcome = .ok endpoints ∧
    twoMethods.declaredOperations = ([("/a", "post"), ("/a", "get")] : List (Text × Text)) ∧
    endpoints.map (fun endpoint => (endpoint.path, endpoint.method)) =
      twoMethods.declaredOperations := by
  have json : twoMethods.IsJson := by simp [twoMethods, Text.ofString_inj]
  exact ⟨json, _, _, rfl, rfl, rfl, @endpoints_declared _ _ json rfl none _ rfl⟩

/-- A path item with an operation beside a member that is to hold its operations, and holds none. -/
def setAside : Value :=
  .map [
    (.text "openapi", .text "3.0.0"),
    (.text "paths", .map [(.text "/a", .map [
      (.text "operations", .map []),
      (.text "get", .map [(.text "operationId", .text "g"), (.text "tags", .list [.text "t"])])])])]

/-- Members of a path item with the names of methods are no operations if it has a member for
these. -/
theorem endpoints_setAside : setAside.IsJson ∧ ∃ document, validate setAside = .ok document ∧
    (document.endpoints none).outcome = .ok [] ∧
    (setAside.under "paths").members.map (fun item => (item.1, item.2.methods.map (·.1))) =
      ([("/a", ["get"])] : List (Text × List Text)) := by
  have json : setAside.IsJson := by simp [setAside, Text.ofString_inj]
  exact ⟨json, _, rfl, rfl, rfl⟩

end Document

end ApiClient
