import ApiClient.Proofs.Api.Parameters

/-! The endpoints of a document from JSON. There is one for each operation if every
operation has what its method needs, and otherwise the first operation that lacks
something tells what is wrong. -/

namespace ApiClient

/-- An operation where a document has it. -/
structure PlacedOperation where
  path : Text
  method : Text
  inherited : List (OrReference Parameter)
  operation : Operation

def PathItem.placedOperations (path : Text) (item : PathItem) : List PlacedOperation :=
  item.operations.map fun entry => ⟨path, entry.1, item.parameters.getD [], entry.2⟩

theorem PathItem.map_placedOperations (path : Text) (item : PathItem) :
    (item.placedOperations path).map (fun placed => (placed.path, placed.method)) =
      (item.operations.map (·.1)).map (Prod.mk path) := by
  simp only [placedOperations, List.map_map, Function.comp_def]

/-- The operations of a document in their order. -/
def Document.placedOperations (document : Document) : List PlacedOperation :=
  (document.paths.getD []).flatMap fun entry => entry.2.placedOperations entry.1

namespace PlacedOperation

variable (document : Document) (space : Option Text) (placed : PlacedOperation)

/-- The parameters of the operation, and those of the path, whether they are overridden or not. -/
def parameterNodes : List (OrReference Parameter) :=
  placed.operation.parameters.getD [] ++ placed.inherited

def endpoint : Except CollectionFault Endpoint :=
  (placed.operation.endpoint document space placed.path placed.method placed.inherited).outcome

/-! ## What an operation needs -/

/-- An operation has an operation id that is an identifier, and a tag. -/
structure IsIdentified (operationId : Text) (tags : List Text) : Prop where
  given : placed.operation.operationId = some operationId
  nonempty : operationId ≠ []
  tagged : placed.operation.tags = some tags
  someTag : tags ≠ []
  identifier : isIdentifier operationId

structure IsValid : Prop where
  identified : ∃ operationId tags, placed.IsIdentified operationId tags
  parameters : ∀ node ∈ placed.parameterNodes, ∃ parameter,
    document.parameterShelf.Ends node (.ok parameter)
  requestBody : ∀ node ∈ placed.operation.requestBody, ∃ body,
    document.requestBodyShelf.Ends node (.ok body)

/-- What keeps an operation from being identified, in the order in which it is looked for. -/
inductive LacksIdentity : CollectionFault → Prop where
  | noOperationId (absent : placed.operation.operationId.getD [] = []) :
      LacksIdentity (.operation placed.path placed.method .noOperationId none)
  | noTags {operationId : Text} (given : placed.operation.operationId = some operationId)
      (nonempty : operationId ≠ []) (absent : placed.operation.tags.getD [] = []) :
      LacksIdentity (.operation placed.path placed.method .noTags (some operationId))
  | badOperationId {operationId : Text} (given : placed.operation.operationId = some operationId)
      (nonempty : operationId ≠ []) (tagged : placed.operation.tags.getD [] ≠ [])
      (bad : isIdentifier operationId = false) :
      LacksIdentity
        (.operation placed.path placed.method (.badOperationId operationId) (some operationId))

/-- What is wrong with an operation. A reference counts only where the operation is identified and
all references before it lead to something. -/
inductive Offends : CollectionFault → Prop where
  | identity {fault : CollectionFault} (lacks : placed.LacksIdentity fault) : Offends fault
  | parameter {operationId : Text} {tags : List Text} {node : OrReference Parameter}
      {before after : List (OrReference Parameter)} {broken : BrokenReference}
      (identified : placed.IsIdentified operationId tags)
      (split : placed.parameterNodes = before ++ node :: after)
      (resolved : ∀ other ∈ before, ∃ parameter, document.parameterShelf.Ends other (.ok parameter))
      (breaks : document.parameterShelf.Ends node (.error broken)) : Offends (.reference broken)
  | requestBody {operationId : Text} {tags : List Text} {node : OrReference RequestBody}
      {broken : BrokenReference} (identified : placed.IsIdentified operationId tags)
      (resolved : ∀ node ∈ placed.parameterNodes, ∃ parameter,
        document.parameterShelf.Ends node (.ok parameter))
      (given : placed.operation.requestBody = some node)
      (breaks : document.requestBodyShelf.Ends node (.error broken)) : Offends (.reference broken)

/-- The endpoint that stands for an operation: its arguments are those of the merged parameters that
take part in requests, in that order. -/
structure Yields (endpoint : Endpoint) : Prop where
  path : endpoint.path = placed.path
  method : endpoint.method = placed.method
  identified : placed.IsIdentified endpoint.operationId endpoint.tags
  arguments : ∃ own inherited,
    List.Forall₂ (fun node parameter => document.parameterShelf.Ends node (.ok parameter))
      (placed.operation.parameters.getD []) own ∧
    List.Forall₂ (fun node parameter => document.parameterShelf.Ends node (.ok parameter))
      placed.inherited inherited ∧
    List.Forall₂ (Parameter.Gives space)
      ((mergeParameters own inherited).filter (·.takesPart space)) endpoint.arguments

/-! ## Identification -/

variable {document space placed}

private theorem checked_eq : placed.operation.checked placed.path placed.method =
    if placed.operation.operationId.getD [] = [] then
      .error (.operation placed.path placed.method .noOperationId none)
    else if placed.operation.tags.getD [] = [] then
      .error (.operation placed.path placed.method .noTags placed.operation.operationId)
    else if isIdentifier (placed.operation.operationId.getD []) then
      .ok (placed.operation.operationId.getD [], placed.operation.tags.getD [])
    else
      .error (.operation placed.path placed.method
        (.badOperationId (placed.operation.operationId.getD [])) placed.operation.operationId) := by
  rw [Operation.checked]
  rcases placed.operation.operationId with _ | _ | ⟨c, name⟩
  · rfl
  · rfl
  · rcases placed.operation.tags with _ | _ | ⟨tag, others⟩
    · rfl
    · rfl
    · rfl

private theorem eq_some_of_getD_ne {α : Type} {items : Option (List α)}
    (nonempty : items.getD [] ≠ []) :
    items = some (items.getD []) := by
  cases items with
  | none => exact absurd rfl nonempty
  | some given => rfl

theorem checked_eq_ok_iff {operationId : Text} {tags : List Text} :
    placed.operation.checked placed.path placed.method = .ok (operationId, tags) ↔
      placed.IsIdentified operationId tags := by
  rw [checked_eq]
  constructor
  · intro succeeds
    split at succeeds
    · cases succeeds
    · rename_i nonempty
      split at succeeds
      · cases succeeds
      · rename_i someTag
        split at succeeds
        · rename_i identifier
          cases succeeds
          exact ⟨eq_some_of_getD_ne nonempty, nonempty, eq_some_of_getD_ne someTag, someTag,
            identifier⟩
        · cases succeeds
  · rintro ⟨given, nonempty, tagged, someTag, identifier⟩
    rw [given, tagged, Option.getD_some, Option.getD_some, if_neg nonempty, if_neg someTag,
      if_pos identifier]

private theorem checked_eq_error_iff {fault : CollectionFault} :
    placed.operation.checked placed.path placed.method = .error fault ↔
      placed.LacksIdentity fault := by
  rw [checked_eq]
  constructor
  · intro fails
    split at fails
    · rename_i absent
      cases fails
      exact .noOperationId absent
    · rename_i nonempty
      have given := eq_some_of_getD_ne nonempty
      split at fails
      · rename_i absent
        cases fails
        rw [given]
        exact .noTags given nonempty absent
      · rename_i tagged
        split at fails
        · cases fails
        · rename_i bad
          cases fails
          rw [given]
          exact .badOperationId given nonempty tagged (Bool.not_eq_true _ ▸ bad)
  · rintro (absent | ⟨given, nonempty, absent⟩ | ⟨given, nonempty, tagged, bad⟩)
    · rw [if_pos absent]
    · rw [given, Option.getD_some, if_neg nonempty, if_pos absent]
    · rw [given, Option.getD_some, if_neg nonempty, if_neg tagged, bad]
      rfl

/-! ## Parameters -/

/-- All parameters of an operation and its path, merged. -/
def parameters (document : Document) (placed : PlacedOperation) :
    Except BrokenReference (List Parameter) := do
  let own ← resolveAll document.parameterShelf (placed.operation.parameters.getD [])
  let inherited ← resolveAll document.parameterShelf placed.inherited
  return mergeParameters own inherited

private theorem parameters_eq_ok_iff {merged : List Parameter} :
    placed.parameters document = .ok merged ↔
      ∃ own inherited,
        List.Forall₂ (fun node parameter => document.parameterShelf.Ends node (.ok parameter))
          (placed.operation.parameters.getD []) own ∧
        List.Forall₂ (fun node parameter => document.parameterShelf.Ends node (.ok parameter))
          placed.inherited inherited ∧
        mergeParameters own inherited = merged := by
  simp only [parameters, bind_eq_ok_iff, pure_eq_ok_iff, resolveAll_eq_ok_iff,
    ← exists_and_left]

private theorem exists_parameters_iff :
    (∃ merged, placed.parameters document = .ok merged) ↔
      ∀ node ∈ placed.parameterNodes, ∃ parameter,
        document.parameterShelf.Ends node (.ok parameter) := by
  simp only [parameters, bind_eq_ok_iff, pure_eq_ok_iff]
  rw [parameterNodes, List.forall_mem_append, ← exists_resolveAll_iff, ← exists_resolveAll_iff]
  constructor
  · rintro ⟨_, own, ofOwn, inherited, ofInherited, -⟩
    exact ⟨⟨own, ofOwn⟩, inherited, ofInherited⟩
  · rintro ⟨⟨own, ofOwn⟩, inherited, ofInherited⟩
    exact ⟨_, own, ofOwn, inherited, ofInherited, rfl⟩

private theorem parameters_eq_error_iff {broken : BrokenReference} :
    placed.parameters document = .error broken ↔
      ∃ before node after, placed.parameterNodes = before ++ node :: after ∧
        (∀ other ∈ before, ∃ parameter, document.parameterShelf.Ends other (.ok parameter)) ∧
        document.parameterShelf.Ends node (.error broken) := by
  rw [parameterNodes, ← resolveAll_eq_error_iff, resolveAll_append_eq_error_iff, parameters,
    bind_eq_error_iff]
  refine or_congr_right (exists_congr fun own => and_congr_right fun _ => ?_)
  rw [bind_eq_error_iff]
  exact or_iff_left nofun

/-! ## One operation -/

theorem endpoint_eq : placed.endpoint document space = do
    let identified ← placed.operation.checked placed.path placed.method
    let merged ← (placed.parameters document).mapError CollectionFault.reference
    let arguments ← (argumentsOf space merged).outcome.mapError CollectionFault.unwritable
    let body ← (placed.operation.requestBody.mapM document.requestBodyShelf.resolve).mapError
      CollectionFault.reference
    let content ← (body.mapM (RequestBody.content? space)).mapError CollectionFault.unwritable
    return {
      operationId := identified.1
      method := placed.method
      path := placed.path
      tags := identified.2
      arguments
      bodyType := content.bind (·.2)
      contentType := content.map (·.1)
      summary := firstNonempty placed.operation.summary placed.operation.description
      deprecated := placed.operation.deprecated == some true } := by
  rw [endpoint, Operation.endpoint, parameters]
  simp only [Logged.outcome_bind, Logged.outcome_ofExcept, Logged.outcome_mapError,
    Logged.outcome_pure]
  cases resolveAll document.parameterShelf (placed.operation.parameters.getD []) with
  | error broken => rfl
  | ok own =>
      cases resolveAll document.parameterShelf placed.inherited with
      | error broken => rfl
      | ok inherited => rfl

private theorem endpoint_eq_ok {endpoint : Endpoint}
    (succeeds : placed.endpoint document space = .ok endpoint) :
    ∃ merged body, placed.IsIdentified endpoint.operationId endpoint.tags ∧
      placed.parameters document = .ok merged ∧
      (argumentsOf space merged).outcome = .ok endpoint.arguments ∧
      placed.operation.requestBody.mapM document.requestBodyShelf.resolve = .ok body ∧
      endpoint.path = placed.path ∧ endpoint.method = placed.method := by
  simp only [endpoint_eq, bind_eq_ok_iff, mapError_eq_ok_iff, pure_eq_ok_iff] at succeeds
  obtain ⟨⟨operationId, tags⟩, identified, merged, ofMerged, arguments, ofArguments, body, ofBody,
    _, _, rfl⟩ := succeeds
  exact ⟨merged, body, checked_eq_ok_iff.mp identified, ofMerged, ofArguments, ofBody, rfl, rfl⟩

theorem yields_of_endpoint {endpoint : Endpoint}
    (succeeds : placed.endpoint document space = .ok endpoint) :
    placed.Yields document space endpoint := by
  obtain ⟨_, _, identified, ofMerged, ofArguments, -, path, method⟩ := endpoint_eq_ok succeeds
  obtain ⟨own, inherited, ofOwn, ofInherited, rfl⟩ := parameters_eq_ok_iff.mp ofMerged
  exact ⟨path, method, identified, own, inherited, ofOwn, ofInherited,
    forall₂_argumentsOf ofArguments⟩

/-- What the references of an operation lead to has values of JSON in its schemas. -/
structure IsWritable (document : Document) (placed : PlacedOperation) : Prop where
  parameters : ∀ node ∈ placed.parameterNodes, ∀ parameter,
    document.parameterShelf.Ends node (.ok parameter) → parameter.HasJsonValues
  requestBody : ∀ node ∈ placed.operation.requestBody, ∀ body,
    document.requestBodyShelf.Ends node (.ok body) → body.HasJsonValues

private theorem IsWritable.exists_argumentsOf (writable : placed.IsWritable document)
    (space : Option Text) {merged : List Parameter}
    (ofMerged : placed.parameters document = .ok merged) :
    ∃ arguments, (argumentsOf space merged).outcome = .ok arguments := by
  obtain ⟨own, inherited, ofOwn, ofInherited, rfl⟩ := parameters_eq_ok_iff.mp ofMerged
  refine ApiClient.exists_argumentsOf space (satisfies_mergeParameters ?_ ?_)
  · exact forall_mem_right_of_forall₂ ofOwn fun node member =>
      writable.parameters node (List.mem_append_left _ member)
  · exact forall_mem_right_of_forall₂ ofInherited fun node member =>
      writable.parameters node (List.mem_append_right _ member)

private theorem IsWritable.exists_content (writable : placed.IsWritable document)
    (space : Option Text) {body : Option RequestBody}
    (ofBody : placed.operation.requestBody.mapM document.requestBodyShelf.resolve = .ok body) :
    ∃ content, body.mapM (RequestBody.content? space) = .ok content := by
  refine exists_optionMapM_eq_ok_iff.mpr fun part isPart => ?_
  cases given : placed.operation.requestBody with
  | none =>
      rw [given] at ofBody
      cases ofBody
      cases isPart
  | some node =>
      rw [given] at ofBody
      obtain ⟨found, resolved, rfl⟩ := exists_of_map_eq_ok ofBody
      cases isPart
      exact (writable.requestBody node given part (Shelf.resolve_eq_iff.mp resolved)).exists_content
        space

/-- An operation has an endpoint exactly if it has what its method needs. -/
theorem exists_endpoint_iff (writable : placed.IsWritable document) (space : Option Text) :
    (∃ endpoint, placed.endpoint document space = .ok endpoint) ↔ placed.IsValid document := by
  constructor
  · rintro ⟨endpoint, succeeds⟩
    obtain ⟨merged, body, identified, ofMerged, -, ofBody, -⟩ := endpoint_eq_ok succeeds
    refine ⟨⟨_, _, identified⟩, exists_parameters_iff.mp ⟨merged, ofMerged⟩, ?_⟩
    simpa only [Shelf.resolve_eq_iff] using exists_optionMapM_eq_ok_iff.mp ⟨body, ofBody⟩
  · rintro ⟨⟨operationId, tags, identified⟩, parameters, requestBody⟩
    obtain ⟨merged, ofMerged⟩ := exists_parameters_iff.mpr parameters
    simp only [← Shelf.resolve_eq_iff] at requestBody
    obtain ⟨body, ofBody⟩ := exists_optionMapM_eq_ok_iff.mpr requestBody
    obtain ⟨arguments, ofArguments⟩ := writable.exists_argumentsOf space ofMerged
    obtain ⟨content, ofContent⟩ := writable.exists_content space ofBody
    simp only [endpoint_eq, bind_eq_ok_iff, mapError_eq_ok_iff]
    exact ⟨_, (operationId, tags), checked_eq_ok_iff.mpr identified, merged, ofMerged, arguments,
      ofArguments, body, ofBody, content, ofContent, rfl⟩

/-- What goes wrong with an operation is what is wrong with it. -/
theorem endpoint_eq_error_iff (writable : placed.IsWritable document) (space : Option Text)
    {fault : CollectionFault} :
    placed.endpoint document space = .error fault ↔ placed.Offends document fault := by
  rw [endpoint_eq]
  constructor
  · intro fails
    rcases bind_eq_error_iff.mp fails with lacks | ⟨⟨operationId, tags⟩, ofIdentity, fails⟩
    · exact .identity (checked_eq_error_iff.mp lacks)
    have identified := checked_eq_ok_iff.mp ofIdentity
    rcases bind_eq_error_iff.mp fails with fails | ⟨merged, ofMerged, fails⟩
    · obtain ⟨broken, unresolved, rfl⟩ := mapError_eq_error_iff.mp fails
      obtain ⟨before, node, after, split, resolved, breaks⟩ := parameters_eq_error_iff.mp unresolved
      exact .parameter identified split resolved breaks
    rw [mapError_eq_ok_iff] at ofMerged
    rcases bind_eq_error_iff.mp fails with fails | ⟨arguments, -, fails⟩
    · obtain ⟨arguments, ofArguments⟩ := writable.exists_argumentsOf space ofMerged
      rw [ofArguments] at fails
      cases fails
    rcases bind_eq_error_iff.mp fails with fails | ⟨body, ofBody, fails⟩
    · obtain ⟨broken, unresolved, rfl⟩ := mapError_eq_error_iff.mp fails
      obtain ⟨node, given, breaks⟩ := optionMapM_eq_error_iff.mp unresolved
      exact .requestBody identified (exists_parameters_iff.mp ⟨merged, ofMerged⟩) given
        (Shelf.resolve_eq_iff.mp breaks)
    rw [mapError_eq_ok_iff] at ofBody
    rcases bind_eq_error_iff.mp fails with fails | ⟨content, -, fails⟩
    · obtain ⟨content, ofContent⟩ := writable.exists_content space ofBody
      rw [ofContent] at fails
      cases fails
    · cases fails
  · rintro (lacks | ⟨identified, split, resolved, breaks⟩ | ⟨identified, resolved, given, breaks⟩)
    · rw [checked_eq_error_iff.mpr lacks]
      rfl
    · have fails := parameters_eq_error_iff.mpr ⟨_, _, _, split, resolved, breaks⟩
      rw [checked_eq_ok_iff.mpr identified, fails]
      rfl
    · obtain ⟨merged, ofMerged⟩ := exists_parameters_iff.mpr resolved
      obtain ⟨arguments, ofArguments⟩ := writable.exists_argumentsOf space ofMerged
      have fails := optionMapM_eq_error_iff.mpr ⟨_, given, Shelf.resolve_eq_iff.mpr breaks⟩
      rw [checked_eq_ok_iff.mpr identified, ofMerged, fails]
      change ((argumentsOf space merged).outcome.mapError _ >>= _) = _
      rw [ofArguments]
      rfl

end PlacedOperation

/-! ## All operations of a document -/

private theorem PathItem.outcome_endpoints (document : Document) (space : Option Text) (path : Text)
    (item : PathItem) (operations : List (Text × Operation)) :
    (item.endpoints document space path operations).outcome =
      (operations.map fun entry => (⟨path, entry.1, item.parameters.getD [], entry.2⟩ :
        PlacedOperation)).mapM (·.endpoint document space) := by
  induction operations with
  | nil => rfl
  | cons entry rest induction =>
      rw [PathItem.endpoints, List.map_cons, List.mapM_cons, ← induction]
      simp only [Logged.outcome_bind]
      rfl

/-- The walk through paths and operations takes one operation after the other. -/
theorem outcome_endpointsOf (document : Document) (space : Option Text)
    (paths : List (Text × PathItem)) :
    (endpointsOf document space paths).outcome =
      (paths.flatMap fun entry => entry.2.placedOperations entry.1).mapM
        (·.endpoint document space) := by
  induction paths with
  | nil => rfl
  | cons entry rest induction =>
      rw [endpointsOf, List.flatMap_cons, List.mapM_append, ← induction, PathItem.placedOperations,
        ← PathItem.outcome_endpoints]
      simp only [Logged.outcome_bind]
      rfl

namespace Document

variable {document : Document}

private theorem HasJsonValues.parameterParts (json : document.HasJsonValues) :
    ∀ part ∈ document.parameterShelf.parts, part.2.Satisfies Parameter.HasJsonValues := by
  rw [parameterShelf]
  cases given : document.components with
  | none => exact List.forall_mem_nil _
  | some components => exact (json.components components given).parameters

private theorem HasJsonValues.requestBodyParts (json : document.HasJsonValues) :
    ∀ part ∈ document.requestBodyShelf.parts, part.2.Satisfies RequestBody.HasJsonValues := by
  rw [requestBodyShelf]
  cases given : document.components with
  | none => exact List.forall_mem_nil _
  | some components => exact (json.components components given).requestBodies

private theorem HasJsonValues.isWritable (json : document.HasJsonValues) :
    ∀ placed ∈ document.placedOperations, placed.IsWritable document := by
  intro placed member
  obtain ⟨⟨path, item⟩, inPaths, member⟩ := List.mem_flatMap.mp member
  obtain ⟨⟨method, operation⟩, inItem, rfl⟩ := List.mem_map.mp member
  have ofItem := json.paths _ inPaths
  have ofOperation := ofItem.operations _ inItem
  constructor
  · intro node isNode parameter ends
    have satisfies : node.Satisfies Parameter.HasJsonValues := by
      rcases List.mem_append.mp isNode with isOwn | isInherited
      · exact ofOperation.parameters node isOwn
      · exact ofItem.parameters node isInherited
    exact ends.satisfies json.parameterParts satisfies
  · intro node isNode body ends
    exact ends.satisfies json.requestBodyParts (ofOperation.requestBody node isNode)

/-- No two operations have the same path and method. -/
theorem HasJsonValues.nodup_placedOperations (json : document.HasJsonValues) :
    (document.placedOperations.map fun placed => (placed.path, placed.method)).Nodup := by
  have distinct := json.distinct
  have each := json.paths
  rw [placedOperations]
  generalize document.paths.getD [] = paths at distinct each
  induction paths with
  | nil => exact .nil
  | cons entry rest induction =>
      rw [List.map_cons, List.nodup_cons] at distinct
      obtain ⟨first, others⟩ := List.forall_mem_cons.mp each
      rw [List.flatMap_cons, List.map_append]
      refine List.Nodup.append ?_ (induction distinct.2 others) ?_
      · rw [PathItem.map_placedOperations]
        exact first.distinct.map (Prod.mk_right_injective entry.1)
      · intro place inFirst inRest
        rw [PathItem.map_placedOperations] at inFirst
        obtain ⟨method, -, rfl⟩ := List.mem_map.mp inFirst
        obtain ⟨placed, member, samePlace⟩ := List.mem_map.mp inRest
        obtain ⟨other, inRest, member⟩ := List.mem_flatMap.mp member
        obtain ⟨operation, -, rfl⟩ := List.mem_map.mp member
        have samePath : other.1 = entry.1 := (Prod.mk.inj samePlace).1
        exact distinct.1 (samePath ▸ List.mem_map_of_mem inRest)

/-- The endpoints of a document from JSON can be had exactly if all its operations are valid.
There is one for each operation then, in the order of the document, and otherwise the fault is
that of the first operation in which something is wrong. -/
theorem endpoints_exact (json : document.IsFromJson) (space : Option Text) :
    ((∃ endpoints, (document.endpoints space).outcome = .ok endpoints) ↔
      ∀ placed ∈ document.placedOperations, placed.IsValid document) ∧
    (∀ endpoints, (document.endpoints space).outcome = .ok endpoints →
      List.Forall₂ (fun placed endpoint => placed.Yields document space endpoint)
        document.placedOperations endpoints ∧
      (endpoints.map fun endpoint => (endpoint.path, endpoint.method)).Nodup) ∧
    ∀ fault, (document.endpoints space).outcome = .error fault ↔
      ∃ before placed after, document.placedOperations = before ++ placed :: after ∧
        (∀ other ∈ before, other.IsValid document) ∧ placed.Offends document fault := by
  have values := json.hasJsonValues
  have writable := values.isWritable
  have run : (document.endpoints space).outcome =
      document.placedOperations.mapM (·.endpoint document space) :=
    outcome_endpointsOf document space _
  rw [run]
  refine ⟨?_, fun endpoints succeeds => ?_, fun fault => ?_⟩
  · rw [exists_mapM_eq_ok_iff]
    exact forall₂_congr fun placed member =>
      PlacedOperation.exists_endpoint_iff (writable placed member) space
  · have yields := (mapM_eq_ok_iff.mp succeeds).imp fun placed endpoint =>
      PlacedOperation.yields_of_endpoint
    refine ⟨yields, ?_⟩
    rw [← map_eq_of_forall₂ (fun placed endpoint yields => ?_) yields]
    · exact values.nodup_placedOperations
    · exact Prod.ext yields.path.symm yields.method.symm
  · rw [mapM_eq_error_iff]
    refine exists_congr fun before => exists_congr fun placed => exists_congr fun after =>
      and_congr_right fun split => ?_
    have members : ∀ other ∈ before ++ placed :: after, other.IsWritable document :=
      split ▸ writable
    obtain ⟨ofBefore, ofRest⟩ := List.forall_mem_append.mp members
    refine and_congr (forall₂_congr fun other member => ?_) ?_
    · exact PlacedOperation.exists_endpoint_iff (ofBefore other member) space
    · exact PlacedOperation.endpoint_eq_error_iff (ofRest placed List.mem_cons_self) space

/-- Two operations of a path whose body and parameter are shared by reference. The path has another
parameter, which has no type, and one of the operations has one of its own in its place. -/
def sharedParts : Document where
  openapi := some "3.1"
  paths := some [("/", {
    parameters := some [
      .reference "#/components/parameters/Id",
      .direct { name := "all", location := "query", schema := some (.inline {} none none) }]
    operations := [
      ("put", {
        operationId := some "set"
        tags := some ["t"]
        requestBody := some (.reference "#/components/requestBodies/Pet") }),
      ("get", {
        operationId := some "find"
        tags := some ["t"]
        parameters := some [.direct {
          name := "all"
          location := "query"
          required := some true
          schema := some (.inline { kind := some .boolean } none none) }] })] })]
  components := some {
    parameters := some [("Id", .direct {
      name := "id"
      location := "header"
      schema := some (.inline { kind := some .string } none none) })]
    requestBodies := some [("Pet", .direct {
      content := some [("a/b", { schema := some (.reference "Pet") })] })] }

def sharedPartsData : Value :=
  .map [
    (.text "openapi", .text "3.1"),
    (.text "paths", .map [(.text "/", .map [
      (.text "parameters", .list [
        .map [(.text "$ref", .text "#/components/parameters/Id")],
        .map [(.text "name", .text "all"), (.text "in", .text "query"),
          (.text "schema", .map [])]]),
      (.text "put", .map [
        (.text "operationId", .text "set"), (.text "tags", .list [.text "t"]),
        (.text "requestBody", .map [(.text "$ref", .text "#/components/requestBodies/Pet")])]),
      (.text "get", .map [
        (.text "operationId", .text "find"), (.text "tags", .list [.text "t"]),
        (.text "parameters", .list [.map [
          (.text "name", .text "all"), (.text "in", .text "query"),
          (.text "required", .bool true),
          (.text "schema", .map [(.text "type", .text "boolean")])]])])])]),
    (.text "components", .map [
      (.text "parameters", .map [(.text "Id", .map [
        (.text "name", .text "id"), (.text "in", .text "header"),
        (.text "schema", .map [(.text "type", .text "string")])])]),
      (.text "requestBodies", .map [(.text "Pet", .map [
        (.text "content", .map [
          (.text "a/b", .map [(.text "schema", .map [(.text "$ref", .text "Pet")])])])])])])]

/-- The text of the data, in short pieces. -/
def sharedPartsText : List Char :=
  [ "\x7b\"openapi\":\"3.1\",",
    "\"paths\":\x7b\"/\":",
    "\x7b\"parameters\":[\x7b\"$ref\":",
    "\"#/components/parameters/Id\"\x7d,",
    "\x7b\"name\":\"all\",\"in\":\"query\",",
    "\"schema\":\x7b\x7d\x7d],\"put\":",
    "\x7b\"operationId\":\"set\",",
    "\"tags\":[\"t\"],\"requestBody\":",
    "\x7b\"$ref\":\"#/components/",
    "requestBodies/Pet\"\x7d\x7d,\"get\":",
    "\x7b\"operationId\":\"find\",",
    "\"tags\":[\"t\"],\"parameters\":",
    "[\x7b\"name\":\"all\",\"in\":\"query\",",
    "\"required\":true,\"schema\":",
    "\x7b\"type\":\"boolean\"\x7d\x7d]\x7d\x7d\x7d,",
    "\"components\":\x7b\"parameters\":",
    "\x7b\"Id\":\x7b\"name\":\"id\",",
    "\"in\":\"header\",\"schema\":",
    "\x7b\"type\":\"string\"\x7d\x7d\x7d,",
    "\"requestBodies\":\x7b\"Pet\":",
    "\x7b\"content\":\x7b\"a/b\":",
    "\x7b\"schema\":\x7b\"$ref\":\"Pet\"",
    "\x7d\x7d\x7d\x7d\x7d\x7d\x7d" ].flatMap String.toList

set_option maxRecDepth 20000 in
private theorem read_sharedPartsText : Json.read sharedPartsText = .ok sharedPartsData := by
  cbv

private theorem isFromJson_sharedParts : sharedParts.IsFromJson :=
  isFromJson_of_validate read_sharedPartsText rfl

/-- The parameter of the path that has no type does not take part. -/
def putShared : Endpoint where
  operationId := "set"
  method := "put"
  path := "/"
  tags := ["t"]
  arguments := [{ name := "id", place := .header, required := false, type := "string" }]
  bodyType := some "Pet"
  contentType := some "a/b"

def getShared : Endpoint where
  operationId := "find"
  method := "get"
  path := "/"
  tags := ["t"]
  arguments := [
    { name := "all", place := .query, required := true, type := "boolean" },
    { name := "id", place := .header, required := false, type := "string" }]

theorem endpoints_sharedParts :
    (sharedParts.endpoints none).outcome = .ok [putShared, getShared] := by
  decide +kernel

theorem endpoints_exact_sharedParts :
    (sharedParts.endpoints none).outcome = .ok [putShared, getShared] ∧
      (∀ placed ∈ sharedParts.placedOperations, placed.IsValid sharedParts) ∧
      List.Forall₂ (fun placed endpoint => placed.Yields sharedParts none endpoint)
        sharedParts.placedOperations [putShared, getShared] := by
  have ⟨succeeds_iff, each, _⟩ := endpoints_exact isFromJson_sharedParts none
  exact ⟨endpoints_sharedParts, succeeds_iff.mp ⟨_, endpoints_sharedParts⟩,
    (each _ endpoints_sharedParts).1⟩

end Document

end ApiClient
