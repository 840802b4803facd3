import ApiClient.Proofs.Code.Classes
import ApiClient.Proofs.Document.References

/-! The endpoints of a document with and without descriptions. References are followed by their
pointers, and parameters are merged by their names and locations, so that what is found for an
operation is the same in both documents up to descriptions. -/

namespace ApiClient.Code

/-! ## Parameters -/

abbrev AlikeParameters (left right : Parameter) : Prop :=
  right = left.redacted ∧ left.HasPlainNames

private theorem agree_resolve {α : Type} {change : α → α} {property : α → Prop} {shelf : Shelf α}
    (parts : ∀ part ∈ shelf.parts, part.2.Satisfies property) {node : OrReference α}
    (satisfies : node.Satisfies property) :
    Agree (fun part other => other = change part ∧ property part) (shelf.resolve node)
      ((shelf.map change).resolve (node.map change)) := by
  rw [Shelf.resolve_map]
  cases resolved : shelf.resolve node with
  | error broken => exact .failure broken
  | ok part => exact .success ⟨rfl, Shelf.satisfies_follow parts satisfies resolved⟩

private theorem alike_mergeParameters {own ownOthers inherited others : List Parameter}
    (first : List.Forall₂ AlikeParameters own ownOthers)
    (second : List.Forall₂ AlikeParameters inherited others) :
    List.Forall₂ AlikeParameters (mergeParameters own inherited)
      (mergeParameters ownOthers others) := by
  unfold mergeParameters
  induction second generalizing own ownOthers with
  | nil => exact first
  | @cons parameter other _ _ head _ induction =>
      have key : other.key = parameter.key := by rw [head.1]; rfl
      have taken : own.any (·.key == parameter.key) = ownOthers.any (·.key == other.key) := by
        rw [key]
        refine any_eq_of_forall₂ (fun left right alike => ?_) first
        rw [alike.1]
        rfl
      rw [List.foldl_cons, List.foldl_cons]
      apply induction
      rw [taken]
      split
      · exact first
      · exact List.rel_append first (.cons head .nil)

/-- An argument that travels in a path has a name that can stand in code. -/
structure AlikeNamedArguments (left right : Argument) : Prop where
  alike : AlikeArguments left right
  identifier : left.place = .path → isIdentifier left.name

private theorem isNullabilityGiven_redacted (parameter : Parameter) :
    parameter.redacted.isNullabilityGiven = parameter.isNullabilityGiven := by
  obtain ⟨_, _, _, _, _, schema⟩ := parameter
  cases schema with
  | none => rfl
  | some node => cases node <;> rfl

private theorem eq_of_named_path {location : Text} (isPath : Place.named location = .path) :
    location = "path" := by
  unfold Place.named at isPath
  split at isPath
  · cases isPath
  · split at isPath
    · assumption
    · split at isPath <;> cases isPath

section

variable {space : Option Text} (plain : ∀ name ∈ space, IsPlain name)

include plain

private theorem agree_argument {parameter other : Parameter}
    (alike : AlikeParameters parameter other) :
    Agree (Option.Rel AlikeNamedArguments) (parameter.argument space).outcome
      (other.argument space).outcome := by
  obtain ⟨rfl, names⟩ := alike
  have nullability := isNullabilityGiven_redacted parameter
  unfold Parameter.argument
  rw [nullability]
  dsimp only [Parameter.redacted]
  cases schema : parameter.schema with
  | none =>
      cases Place.named parameter.location <;> exact .success .none
  | some node =>
      have types := agree_typeOf plain node (names.schema node schema)
      have identifier : Place.named parameter.location = .path → isIdentifier parameter.name :=
        fun isPath => names.name (eq_of_named_path isPath)
      rw [Option.map_some]
      cases place : Place.named parameter.location with
      | other location => exact .success .none
      | query | path | header =>
          dsimp only
          rw [Logged.outcome_bind, Logged.outcome_bind]
          apply types.bind
          intro first second alike
          cases alike with
          | none => exact .success .none
          | some type => exact .success (.some ⟨⟨rfl, rfl, rfl, type⟩, place ▸ identifier⟩)

private theorem agree_argumentsOf {parameters others : List Parameter}
    (alike : List.Forall₂ AlikeParameters parameters others) :
    Agree (List.Forall₂ AlikeNamedArguments) (argumentsOf space parameters).outcome
      (argumentsOf space others).outcome := by
  induction alike with
  | nil => exact .success .nil
  | cons head _ induction =>
      rw [argumentsOf, argumentsOf, Logged.outcome_bind, Logged.outcome_bind]
      apply (agree_argument plain head).bind
      intro first second argument
      rw [Logged.outcome_bind, Logged.outcome_bind]
      apply induction.bind
      intro rest others arguments
      cases argument with
      | none => exact .success arguments
      | some argument => exact .success (.cons argument arguments)

/-! ## Request bodies -/

structure AlikeContent (left right : Text × Option Text) : Prop where
  contentType : left.1 = right.1
  type : Option.Rel AlikeTypes left.2 right.2

private theorem agree_content {body : RequestBody} (names : body.HasPlainNames) :
    Agree AlikeContent (body.content? space) (body.redacted.content? space) := by
  obtain ⟨_, content, _⟩ := body
  match content with
  | none => exact .success ⟨rfl, .none⟩
  | some [] => exact .success ⟨rfl, .none⟩
  | some ((contentType, ⟨schema⟩) :: rest) =>
    cases schema with
    | none => exact .success ⟨rfl, .none⟩
    | some node =>
        have type := agree_typeOf plain node (names _ List.mem_cons_self node rfl)
        exact type.bind fun types => .success ⟨rfl, types⟩

private theorem agree_contents {left right : Option RequestBody}
    (bodies : Option.Rel (fun found other => other = found.redacted ∧ found.HasPlainNames)
      left right) :
    Agree (Option.Rel AlikeContent) (left.mapM (RequestBody.content? space))
      (right.mapM (RequestBody.content? space)) := by
  apply Agree.optionMapM
  cases bodies with
  | none => exact .none
  | some body =>
      obtain ⟨rfl, names⟩ := body
      exact .some (agree_content plain names)

end

/-! ## Operations -/

section

variable {document : Document}

private theorem agree_checked (path method : Text) (operation : Operation) :
    Agree (fun found other => found = other ∧ isIdentifier found.1)
      (operation.checked path method) (operation.redacted.checked path method) := by
  apply Agree.refl
  rintro ⟨operationId, tags⟩ found
  refine ⟨rfl, ?_⟩
  unfold Operation.checked at found
  split at found
  · cases found
  · cases found
  · cases found
  · cases found
  · split at found
    · rename_i identifier
      cases found
      exact identifier
    · cases found

private theorem parameterShelf_redacted :
    document.redacted.parameterShelf = document.parameterShelf.map Parameter.redacted := by
  obtain ⟨_, _, _, components⟩ := document
  match components with
  | none => rfl
  | some ⟨_, none, _⟩ => rfl
  | some ⟨_, some _, _⟩ => rfl

private theorem requestBodyShelf_redacted :
    document.redacted.requestBodyShelf = document.requestBodyShelf.map RequestBody.redacted := by
  obtain ⟨_, _, _, components⟩ := document
  match components with
  | none => rfl
  | some ⟨_, _, none⟩ => rfl
  | some ⟨_, _, some _⟩ => rfl

variable (names : document.HasPlainNames)

include names

private theorem satisfies_parameterShelf :
    ∀ part ∈ document.parameterShelf.parts, part.2.Satisfies Parameter.HasPlainNames := by
  obtain ⟨_, _, _, components⟩ := document
  cases components with
  | none => simp [Document.parameterShelf]
  | some components => exact (names.components components rfl).parameters

private theorem satisfies_requestBodyShelf :
    ∀ part ∈ document.requestBodyShelf.parts, part.2.Satisfies RequestBody.HasPlainNames := by
  obtain ⟨_, _, _, components⟩ := document
  cases components with
  | none => simp [Document.requestBodyShelf]
  | some components => exact (names.components components rfl).requestBodies

private theorem agree_parameters {nodes : List (OrReference Parameter)}
    (satisfies : ∀ node ∈ nodes, node.Satisfies Parameter.HasPlainNames) :
    Agree (List.Forall₂ AlikeParameters) (resolveAll document.parameterShelf nodes)
      (resolveAll document.redacted.parameterShelf (redactedParameters nodes)) := by
  rw [parameterShelf_redacted]
  apply Agree.mapM
  rw [redactedParameters, List.forall₂_map_right_iff]
  exact List.forall₂_same.mpr fun node member =>
    agree_resolve (satisfies_parameterShelf names) (satisfies node member)

private theorem agree_requestBody {body : Option (OrReference RequestBody)}
    (satisfies : ∀ node ∈ body, node.Satisfies RequestBody.HasPlainNames) :
    Agree (Option.Rel fun found other => other = found.redacted ∧ found.HasPlainNames)
      (body.mapM document.requestBodyShelf.resolve)
      ((body.map (·.map RequestBody.redacted)).mapM
        document.redacted.requestBodyShelf.resolve) := by
  rw [requestBodyShelf_redacted]
  apply Agree.optionMapM
  cases body with
  | none => exact .none
  | some node =>
      exact .some (agree_resolve (satisfies_requestBodyShelf names) (satisfies node rfl))

private theorem agree_endpoint {space : Option Text} (plain : ∀ name ∈ space, IsPlain name)
    (path method : Text) {inherited : List (OrReference Parameter)}
    (satisfies : ∀ node ∈ inherited, node.Satisfies Parameter.HasPlainNames)
    {operation : Operation} (own : operation.HasPlainNames) :
    Agree AlikeWritable (operation.endpoint document space path method inherited).outcome
      (operation.redacted.endpoint document.redacted space path method
        (redactedParameters inherited)).outcome := by
  have ownParameters : Agree (List.Forall₂ AlikeParameters)
      (resolveAll document.parameterShelf (operation.parameters.getD []))
      (resolveAll document.redacted.parameterShelf (operation.redacted.parameters.getD [])) := by
    rw [Operation.redacted, getD_redactedParameters]
    exact agree_parameters names own.parameters
  unfold Operation.endpoint
  simp only [Logged.outcome_bind]
  apply (agree_checked path method operation).bind
  rintro ⟨operationId, tags⟩ _ ⟨rfl, identifier⟩
  apply (ownParameters.mapError CollectionFault.reference).bind
  intro ownLeft ownRight ownAlike
  apply ((agree_parameters names satisfies).mapError CollectionFault.reference).bind
  intro inheritedLeft inheritedRight inheritedAlike
  have merged := alike_mergeParameters ownAlike inheritedAlike
  apply ((agree_argumentsOf plain merged).mapError CollectionFault.unwritable).bind
  intro argumentsLeft argumentsRight arguments
  apply ((agree_requestBody names own.requestBody).mapError CollectionFault.reference).bind
  intro bodyLeft bodyRight bodies
  apply ((agree_contents plain bodies).mapError CollectionFault.unwritable).bind
  intro contentLeft contentRight content
  apply Agree.success
  refine ⟨⟨rfl, rfl, rfl, rfl, arguments.imp fun _ _ argument => argument.alike, ?_, ?_, ?_, rfl⟩,
    ⟨identifier, ?_⟩⟩
  · cases content with
    | none => exact .none
    | some content => exact content.type
  · cases content with
    | none => rfl
    | some content => exact congrArg some content.contentType
  · dsimp only [Operation.redacted]
    rw [redactedText_firstNonempty, redactedText_redactedText]
  · intro argument member
    obtain ⟨member, isPath⟩ := List.mem_filter.mp member
    exact forall_mem_of_forall₂ (fun _ _ argument => argument.identifier) arguments argument member
      (beq_iff_eq.mp isPath)

/-! ## Paths -/

private theorem agree_pathEndpoints {space : Option Text} (plain : ∀ name ∈ space, IsPlain name)
    (path : Text) {item : PathItem} (own : item.HasPlainNames)
    {operations : List (Text × Operation)}
    (each : ∀ operation ∈ operations, operation.2.HasPlainNames) :
    Agree (List.Forall₂ AlikeWritable) (item.endpoints document space path operations).outcome
      (item.redacted.endpoints document.redacted space path
        (mapValues Operation.redacted operations)).outcome := by
  induction operations with
  | nil => exact .success .nil
  | cons operation rest induction =>
      obtain ⟨method, operation⟩ := operation
      have ⟨first, others⟩ := List.forall_mem_cons.mp each
      have inherited : item.redacted.parameters.getD [] =
          redactedParameters (item.parameters.getD []) := getD_redactedParameters item.parameters
      change Agree _ _ (item.redacted.endpoints document.redacted space path
        ((method, operation.redacted) :: mapValues Operation.redacted rest)).outcome
      rw [PathItem.endpoints, PathItem.endpoints, Logged.outcome_bind, Logged.outcome_bind,
        inherited]
      apply (agree_endpoint names plain path method own.parameters first).bind
      intro endpoint other writable
      rw [Logged.outcome_bind, Logged.outcome_bind]
      exact (induction others).bind fun endpoints => .success (.cons writable endpoints)

private theorem agree_endpointsOf {space : Option Text} (plain : ∀ name ∈ space, IsPlain name)
    {paths : List (Text × PathItem)} (each : ∀ item ∈ paths, item.2.HasPlainNames) :
    Agree (List.Forall₂ AlikeWritable) (endpointsOf document space paths).outcome
      (endpointsOf document.redacted space (mapValues PathItem.redacted paths)).outcome := by
  induction paths with
  | nil => exact .success .nil
  | cons item rest induction =>
      obtain ⟨path, item⟩ := item
      have ⟨first, others⟩ := List.forall_mem_cons.mp each
      change Agree _ _ (endpointsOf document.redacted space
        ((path, item.redacted) :: mapValues PathItem.redacted rest)).outcome
      rw [endpointsOf, endpointsOf, Logged.outcome_bind, Logged.outcome_bind]
      apply (agree_pathEndpoints names plain path first first.operations).bind
      intro endpoints otherEndpoints alike
      rw [Logged.outcome_bind, Logged.outcome_bind]
      exact (induction others).bind fun later => .success (List.rel_append alike later)

theorem agree_endpoints {space : Option Text} (plain : ∀ name ∈ space, IsPlain name) :
    Agree (List.Forall₂ AlikeWritable) (document.endpoints space).outcome
      (document.redacted.endpoints space).outcome := by
  have paths : document.redacted.paths.getD [] =
      mapValues PathItem.redacted (document.paths.getD []) := by
    obtain ⟨_, _, paths, _⟩ := document
    cases paths <;> rfl
  rw [Document.endpoints, Document.endpoints, paths]
  exact agree_endpointsOf names plain names.paths

end

end ApiClient.Code
