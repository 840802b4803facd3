import ApiClient.Generation
import ApiClient.Proofs.Code.Declarations
import ApiClient.Proofs.Code.Endpoints

/-! What can be said of the generated modules whatever the document holds: they are closed, and
descriptions reach nothing but their comments. Both rest on the names of the document that stand in
code as they are; all other text is arbitrary. -/

namespace ApiClient.Code

structure SimilarSources (left right : Sources) : Prop where
  models : Similar left.models right.models
  api : Similar left.api right.api

private theorem space_of_apiImports {directory : List Text} {settings : Settings}
    {imports : ApiImports} (found : settings.apiImports directory = .ok imports) :
    imports.space = settings.modelsNamespace := by
  obtain ⟨models, _, found⟩ := exists_of_bind_eq_ok found
  obtain ⟨request, _, ⟨⟩⟩ := exists_of_bind_eq_ok found
  rfl

private theorem similar_schemas {document : Document} (names : document.HasPlainNames) :
    Agree Similar (renderModels ((document.components.bind (·.schemas)).getD [])).outcome
      (renderModels ((document.redacted.components.bind (·.schemas)).getD [])).outcome := by
  have schemas : (document.redacted.components.bind (·.schemas)).getD [] =
      mapValues Node.redacted ((document.components.bind (·.schemas)).getD []) := by
    obtain ⟨_, _, _, components⟩ := document
    match components with
    | none => rfl
    | some ⟨none, _, _⟩ => rfl
    | some ⟨some _, _, _⟩ => rfl
  rw [schemas]
  apply agree_renderModels
  obtain ⟨_, _, _, components⟩ := document
  cases components with
  | none => simp
  | some components => exact (names.components components rfl).schemas

private theorem agree_generateSources (directory : List Text) {settings : Settings}
    {document : Document} (names : document.HasPlainNames)
    (space : isIdentifier settings.modelsNamespace) :
    Agree SimilarSources (generateSources directory settings document).outcome
      (generateSources directory settings document.redacted).outcome := by
  have plain : IsPlain settings.modelsNamespace := isPlain_of_isIdentifier space
  have endpoints : Agree (List.Forall₂ AlikeWritable)
      (document.endpoints (some settings.modelsNamespace)).outcome
      (document.redacted.endpoints (some settings.modelsNamespace)).outcome :=
    agree_endpoints names (by simpa)
  have version : document.redacted.openapi = document.openapi := rfl
  unfold generateSources
  rw [version]
  split
  · exact .failure _
  · simp only [Logged.outcome_bind]
    apply (endpoints.mapError CollectionFault.failure).bind
    intro left right endpoints
    apply ((similar_schemas names).mapError Failure.unwritable).bind
    intro models otherModels similar
    have imports : Agree (fun found other => found = other ∧ IsPlain found.space)
        ((settings.apiImports directory).mapError Failure.nameless)
        ((settings.apiImports directory).mapError Failure.nameless) := by
      apply Agree.mapError
      exact .refl fun imports found => ⟨rfl, space_of_apiImports found ▸ plain⟩
    apply imports.bind
    rintro imports _ ⟨rfl, plainSpace⟩
    exact (agree_renderApi plainSpace endpoints).bind fun api => .success ⟨similar, api⟩

/-- A document with an address, a tag and a property that hold signs of code, and with given
descriptions. -/
def describedDocument (description summary : Text) : Document where
  openapi := some "3.0.0"
  paths := some [("/\x60/\x7bid\x7d", {
    operations := [("get", {
      operationId := some "load"
      tags := some ["it's"]
      summary := some summary
      parameters := some [.direct {
        name := "id"
        location := "path"
        schema := some (.inline { kind := some .object } none
          (some [("*/", .inline { kind := some .string, description := some description }
            none none)])) }] })] })]
  components := some {
    schemas := some [("Pet", .inline { kind := some .object } none
      (some [("'", .inline { kind := some .string, description := some description } none none),
        ("other", .reference "#/components/schemas/Pet")]))] }

private theorem hasPlainNames_describedDocument (description summary : Text) :
    (describedDocument description summary).HasPlainNames := by
  have identifiers : isIdentifier "id" ∧ isIdentifier "Pet" ∧
      isIdentifier (componentName "#/components/schemas/Pet") := by decide
  simp [describedDocument, Document.hasPlainNames_iff, PathItem.hasPlainNames_iff,
    Operation.hasPlainNames_iff, Components.hasPlainNames_iff, Parameter.hasPlainNames_iff,
    OrReference.Satisfies, Node.HasPlainNames, Node.pointers, itemPointers, propertyPointers,
    fieldPointers, identifiers]

/-- Whatever a document holds beside its names, the generated modules are closed. -/
theorem isClosed_generateSources {directory : List Text} {settings : Settings} {document : Document}
    (names : document.HasPlainNames) (space : isIdentifier settings.modelsNamespace)
    {sources : Sources}
    (generated : (generateSources directory settings document).outcome = .ok sources) :
    IsClosed sources.models ∧ IsClosed sources.api := by
  obtain ⟨_, _, similar⟩ := (agree_generateSources directory names space).exists_of_ok generated
  exact ⟨Balanced.isClosed similar.models.left_reads, Balanced.isClosed similar.api.left_reads⟩

theorem isClosed_describedDocument : ∃ sources : Sources,
    (generateSources [] {} (describedDocument "*/ (" "\x7d")).outcome = .ok sources ∧
      IsClosed sources.models ∧ IsClosed sources.api := by
  have names := hasPlainNames_describedDocument "*/ (" "\x7d"
  obtain ⟨sources, generated⟩ : ∃ sources,
      (generateSources [] {} (describedDocument "*/ (" "\x7d")).outcome = .ok sources := ⟨_, rfl⟩
  exact ⟨sources, generated, isClosed_generateSources names rfl generated⟩

/-- Documents that differ only in what their descriptions say succeed together, and lead to the same
code apart from comments. -/
theorem withoutComments_generateSources (directory : List Text) {settings : Settings}
    {first second : Document} (names : first.HasPlainNames) (others : second.HasPlainNames)
    (equal : first.redacted = second.redacted) (space : isIdentifier settings.modelsNamespace) :
    ((∃ sources, (generateSources directory settings first).outcome = .ok sources) ↔
      ∃ sources, (generateSources directory settings second).outcome = .ok sources) ∧
    ∀ {left right : Sources}, (generateSources directory settings first).outcome = .ok left →
      (generateSources directory settings second).outcome = .ok right →
      withoutComments left.models = withoutComments right.models ∧
        withoutComments left.api = withoutComments right.api := by
  have agree := agree_generateSources directory names space
  have otherAgree := agree_generateSources directory others space
  rw [equal] at agree
  refine ⟨agree.isOk_iff.trans otherAgree.isOk_iff.symm, ?_⟩
  intro left right ofFirst ofSecond
  obtain ⟨between, ofRedacted, similar⟩ := agree.exists_of_ok ofFirst
  obtain ⟨_, ofOther, otherSimilar⟩ := otherAgree.exists_of_ok ofSecond
  obtain rfl := Except.ok.inj (ofRedacted.symm.trans ofOther)
  exact ⟨similar.models.withoutComments_eq.trans otherSimilar.models.withoutComments_eq.symm,
    similar.api.withoutComments_eq.trans otherSimilar.api.withoutComments_eq.symm⟩

theorem withoutComments_describedDocument : ∃ left right : Sources,
    (generateSources [] {} (describedDocument "*/ (" "\x7d")).outcome = .ok left ∧
      (generateSources [] {} (describedDocument "it's\n|" "/* [")).outcome = .ok right ∧
      withoutComments left.models = withoutComments right.models ∧
      withoutComments left.api = withoutComments right.api := by
  obtain ⟨left, ofFirst⟩ : ∃ sources,
      (generateSources [] {} (describedDocument "*/ (" "\x7d")).outcome = .ok sources := ⟨_, rfl⟩
  obtain ⟨right, ofSecond⟩ : ∃ sources,
      (generateSources [] {} (describedDocument "it's\n|" "/* [")).outcome = .ok sources := ⟨_, rfl⟩
  have names := hasPlainNames_describedDocument "*/ (" "\x7d"
  have others := hasPlainNames_describedDocument "it's\n|" "/* ["
  have equal : (describedDocument "*/ (" "\x7d").redacted =
      (describedDocument "it's\n|" "/* [").redacted := rfl
  have space : isIdentifier ({} : Settings).modelsNamespace := rfl
  have ⟨_, code⟩ := withoutComments_generateSources [] names others equal space
  exact ⟨left, right, ofFirst, ofSecond, code ofFirst ofSecond⟩

end ApiClient.Code
