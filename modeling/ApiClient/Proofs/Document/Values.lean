import ApiClient.Proofs.Document.Check

/-! Documents that come from JSON. The values in their schemas are values of JSON, so that there
is a type for each schema, and no two of their operations have the same path and method. -/

namespace ApiClient

/-! ## Schemas -/

/-- The values that a node, or a part of it, enumerates are values of JSON. -/
inductive Node.HasJsonValues : Node → Prop where
  | reference (pointer : Text) : HasJsonValues (.reference pointer)
  | inline {facets : Facets} {items : Option Node} {properties : Option (List (Text × Node))}
      (members : ∀ values ∈ facets.members, ∀ value ∈ values, value.IsJson)
      (ofItems : ∀ node ∈ items, HasJsonValues node)
      (ofProperties : ∀ fields ∈ properties, ∀ field ∈ fields, HasJsonValues field.2) :
      HasJsonValues (.inline facets items properties)

/-- The defaults of a node and of its parts are values of JSON. -/
inductive Node.HasJsonDefaults : Node → Prop where
  | reference (pointer : Text) : HasJsonDefaults (.reference pointer)
  | inline {facets : Facets} {items : Option Node} {properties : Option (List (Text × Node))}
      (default : ∀ value ∈ facets.default, value.IsJson)
      (ofItems : ∀ node ∈ items, HasJsonDefaults node)
      (ofProperties : ∀ fields ∈ properties, ∀ field ∈ fields, HasJsonDefaults field.2) :
      HasJsonDefaults (.inline facets items properties)

section

variable {space : Option Text}

private theorem exists_literalUnion {members : List Value}
    (each : ∀ member ∈ members, member.IsJson) (kind : Kind) :
    ∃ text, literalUnion kind members = .ok text := by
  rw [literalUnion]
  split
  · exact ⟨_, rfl⟩
  · obtain ⟨literals, written⟩ :=
      exists_mapM_eq_ok_iff.mpr fun member isMember =>
        (each member isMember).exists_memberLiteral kind
    exact ⟨_, by rw [written]; rfl⟩

theorem exists_fieldTexts {fields : List (Text × Node)}
    (each : ∀ field ∈ fields, ∃ type, typeOf space field.2 = .ok type) :
    ∃ texts, fieldTexts space fields = .ok texts := by
  induction fields with
  | nil => exact ⟨[], by rw [fieldTexts]⟩
  | cons field rest induction =>
      obtain ⟨⟨type, first⟩, others⟩ := List.forall_mem_cons.mp each
      obtain ⟨texts, further⟩ := induction others
      exact ⟨_, by rw [fieldTexts, first, further]; rfl⟩

private theorem exists_objectType {properties : Option (List (Text × Node))}
    (each : ∀ fields ∈ properties, ∀ field ∈ fields, ∃ type, typeOf space field.2 = .ok type) :
    ∃ type, objectType space properties = .ok type := by
  cases properties with
  | none => exact ⟨_, by rw [objectType]⟩
  | some fields =>
      obtain ⟨texts, written⟩ := exists_fieldTexts (each fields rfl)
      cases fields with
      | nil => exact ⟨_, by rw [objectType]⟩
      | cons field rest =>
          refine ⟨some ("\x7b\n" ++ indented (lines texts) ++ "\n\x7d"), ?_⟩
          rw [objectType, written]
          · rfl
          · intro empty
            cases empty

/-- A schema with values of JSON can be written, whether it has a type or not. -/
theorem Node.HasJsonValues.exists_typeOf (space : Option Text) {node : Node}
    (json : node.HasJsonValues) : ∃ type, typeOf space node = .ok type := by
  induction json with
  | reference pointer => exact ⟨_, by rw [typeOf]⟩
  | @inline facets items properties members ofItems ofProperties items_induction
      properties_induction =>
      rw [typeOf]
      split
      · exact ⟨_, rfl⟩
      · have element : ∃ type, elementType space items = .ok type := by
          cases items with
          | none => exact ⟨_, by rw [elementType]⟩
          | some node =>
              rw [elementType]
              exact items_induction node rfl
        obtain ⟨type, written⟩ := element
        exact ⟨_, by rw [written]; rfl⟩
      · exact exists_objectType properties_induction
      · rename_i given
        split
        · obtain ⟨text, written⟩ := exists_literalUnion (members _ given) _
          exact ⟨_, by rw [written]; rfl⟩
        · exact ⟨_, rfl⟩
      · exact ⟨_, rfl⟩

end

private theorem isJson_put {entries : List (Value × Value)}
    (each : ∀ entry ∈ entries, entry.2.IsJson) (key : Value) {value : Value}
    (json : value.IsJson) :
    ∀ entry ∈ Value.put key value entries, entry.2.IsJson := by
  intro entry member
  rcases Json.mem_put member with there | ⟨-, isNew⟩
  · exact each entry there
  · exact isNew ▸ json

private theorem isJson_collapseKinds {entries : List (Value × Value)}
    (each : ∀ entry ∈ entries, entry.2.IsJson) :
    ∀ entry ∈ collapseKinds entries, entry.2.IsJson := by
  rw [collapseKinds]
  split
  · rename_i kinds found
    obtain ⟨value, found, opened⟩ := Option.map_eq_some_iff.mp found
    have member := mem_of_lookup found
    rw [(each _ member).opened_eq] at opened
    have ofKinds : (Value.list kinds).IsJson := opened ▸ each _ member
    have ofKind : ((kinds.filter fun kind => !kind.sameKey (.text "null")).headD
        (.text "null")).IsJson := by
      cases others : kinds.filter fun kind => !kind.sameKey (.text "null") with
      | nil => exact .text _
      | cons kind rest =>
          cases ofKinds with
          | list ofKinds =>
              exact ofKinds kind (List.mem_of_mem_filter (others ▸ List.mem_cons_self))
    refine isJson_put ?_ _ ofKind
    split
    · exact each
    · exact isJson_put each _ (.bool true)
  · exact each

/-- What the check of a schema accepts holds values of JSON, and what the check of the parts
accepts. -/
theorem ensures_checkSchema {checkPart : Value → Check Node} {property : Node → Prop}
    {value : Value} (json : value.IsJson)
    (parts : ∀ part, part.IsJson → (checkPart part).Ensures property) :
    (checkSchema checkPart value).Ensures fun node =>
      ∃ facets items properties, node = .inline facets items properties ∧
        (∀ members ∈ facets.members, ∀ member ∈ members, member.IsJson) ∧
        (∀ default ∈ facets.default, default.IsJson) ∧ (∀ item ∈ items, property item) ∧
        ∀ fields ∈ properties, ∀ field ∈ fields, property field.2 := by
  refine ensures_checkModel _ json fun entries members => ?_
  have each := isJson_collapseKinds members.each
  have ofAny : ∀ item : Value, item.IsJson → (checkAny item).Ensures Value.IsJson :=
    fun item json => .pure json
  have ofMembers := ensures_optionalField each ["enum"] fun part json =>
    ensures_checkList json ofAny
  have ofItems := ensures_optionalField each ["items"] parts
  have ofProperties := ensures_optionalField each ["properties"] fun part json =>
    ensures_checkMapping json parts
  have ofDefault := ensures_optionalField each ["default"] ofAny
  refine .seq (.seq (.seq (.seq (.seq (.seq (.seq (.seq (.seq (.seq (.map (.any _) ?_) (.any _))
    (.any _)) ofMembers) ofItems) ofProperties) (.any _)) (.any _)) (.any _)) ofDefault) (.any _)
  intro title _ kind _ format _ enumerated members items ofItems properties ofProperties required _
    nullable _ description _ default ofDefault deprecated _
  exact ⟨_, _, _, rfl, members, ofDefault, ofItems,
    fun fields given => (ofProperties fields given).2⟩

section

variable {property : Node → Prop} (ofReference : ∀ pointer, property (.reference pointer))
  (ofInline : ∀ {facets : Facets} {items : Option Node} {properties : Option (List (Text × Node))},
    (∀ members ∈ facets.members, ∀ member ∈ members, member.IsJson) →
    (∀ default ∈ facets.default, default.IsJson) → (∀ item ∈ items, property item) →
    (∀ fields ∈ properties, ∀ field ∈ fields, property field.2) →
    property (.inline facets items properties))

include ofReference ofInline

/-- What is handed on from the parts of a schema to the schema holds of every schema read from
JSON. -/
theorem ensures_checkNodeWithin (depth : Nat) {entered : List Nat} {value : Value}
    (json : value.IsJson) : (checkNodeWithin entered depth value).Ensures property := by
  induction depth generalizing value with
  | zero =>
      rw [checkNodeWithin]
      split
      · exact (Check.Ensures.map (.any _) fun pointer _ => ofReference pointer).within _
      · exact (Check.Ensures.refuse _).within _
  | succ depth induction =>
      rw [checkNodeWithin]
      · split
        · exact (Check.Ensures.map (.any _) fun pointer _ => ofReference pointer).within _
        · have ofSchema := ensures_checkSchema json fun part json => induction json
          refine (ofSchema.imp ?_).within _
          rintro _ ⟨facets, items, properties, rfl, members, default, ofItems, ofProperties⟩
          exact ofInline members default ofItems ofProperties
      · rintro name content rfl
        cases json

end

theorem ensures_checkNode {value : Value} (json : value.IsJson) :
    (checkNode value).Ensures Node.HasJsonValues :=
  ensures_checkNodeWithin .reference (fun members _ => .inline members) greatestDepth json

private theorem ensures_checkNode_defaults {value : Value} (json : value.IsJson) :
    (checkNode value).Ensures Node.HasJsonDefaults :=
  ensures_checkNodeWithin .reference (fun _ default => .inline default) greatestDepth json

/-- A schema as a value of JSON describes it. -/
def Node.IsFromJson (node : Node) : Prop :=
  ∃ value fields isExact, value.IsJson ∧ checkNode value = .accepted node fields isExact

namespace Node.IsFromJson

variable {node : Node}

theorem hasJsonValues (json : node.IsFromJson) : node.HasJsonValues := by
  obtain ⟨value, fields, isExact, json, accepted⟩ := json
  exact (ensures_checkNode json).of_accepted accepted

theorem hasJsonDefaults (json : node.IsFromJson) : node.HasJsonDefaults := by
  obtain ⟨value, fields, isExact, json, accepted⟩ := json
  exact (ensures_checkNode_defaults json).of_accepted accepted

end Node.IsFromJson

theorem ensures_checkNode_isFromJson {value : Value} (json : value.IsJson) :
    (checkNode value).Ensures Node.IsFromJson := by
  cases accepted : checkNode value with
  | accepted node fields isExact => exact ⟨value, fields, isExact, json, accepted⟩
  | refused problems => trivial

/-! ## Parameters and request bodies -/

def Parameter.HasJsonValues (parameter : Parameter) : Prop :=
  ∀ node ∈ parameter.schema, node.HasJsonValues

def RequestBody.HasJsonValues (body : RequestBody) : Prop :=
  ∀ media ∈ body.content.getD [], ∀ node ∈ media.2.schema, node.HasJsonValues

section

variable {entries : List (Value × Value)}

private theorem ensures_checkParameter (members : Json.AreMembers entries) :
    (checkParameter entries).Ensures Parameter.HasJsonValues := by
  have ofSchema := ensures_optionalField members.each ["schema", "schema_"] fun _ =>
    ensures_checkNode
  refine .seq (.seq (.seq (.seq (.seq (.map (.any _) ?_) (.any _)) (.any _)) (.any _)) (.any _))
    ofSchema
  intros
  assumption

private theorem ensures_checkRequestBody (members : Json.AreMembers entries) :
    (checkRequestBody entries).Ensures RequestBody.HasJsonValues := by
  have ofMedia : ∀ part, part.IsJson → (checkModel "MediaType" checkMediaType part).Ensures
      fun media => ∀ node ∈ media.schema, node.HasJsonValues := by
    refine fun part json => ensures_checkModel _ json fun entries members => ?_
    exact .map (ensures_optionalField members.each ["schema", "schema_"] fun _ => ensures_checkNode)
      fun schema json => json
  have ofContent := ensures_optionalField members.each ["content"] fun part json =>
    ensures_checkMapping json ofMedia
  refine .seq (.seq (.map (.any _) ?_) ofContent) (.any _)
  intro description _ content ofContent required _ media member
  cases content with
  | none => cases member
  | some content => exact (ofContent content rfl).2 media member

/-! ## Operations and documents -/

structure Operation.HasJsonValues (operation : Operation) : Prop where
  parameters : ∀ parameter ∈ operation.parameters.getD [],
    parameter.Satisfies Parameter.HasJsonValues
  requestBody : ∀ body ∈ operation.requestBody, body.Satisfies RequestBody.HasJsonValues

structure PathItem.HasJsonValues (item : PathItem) : Prop where
  parameters : ∀ parameter ∈ item.parameters.getD [], parameter.Satisfies Parameter.HasJsonValues
  distinct : (item.operations.map (·.1)).Nodup
  operations : ∀ operation ∈ item.operations, operation.2.HasJsonValues

structure Components.HasJsonValues (components : Components) : Prop where
  schemas : ∀ schema ∈ components.schemas.getD [], schema.2.HasJsonValues
  parameters : ∀ parameter ∈ components.parameters.getD [],
    parameter.2.Satisfies Parameter.HasJsonValues
  requestBodies : ∀ body ∈ components.requestBodies.getD [],
    body.2.Satisfies RequestBody.HasJsonValues

structure Document.HasJsonValues (document : Document) : Prop where
  distinct : ((document.paths.getD []).map (·.1)).Nodup
  paths : ∀ item ∈ document.paths.getD [], item.2.HasJsonValues
  components : ∀ components ∈ document.components, components.HasJsonValues

theorem forall_mem_getD {α : Type} {property : α → Prop} {items : Option (List α)}
    (each : ∀ given ∈ items, ∀ item ∈ given, property item) :
    ∀ item ∈ items.getD [], property item := by
  cases items with
  | none => exact List.forall_mem_nil _
  | some given => exact each given rfl

private theorem ensures_checkParameters {value : Value} (json : value.IsJson) :
    (checkParameters value).Ensures fun parameters =>
      ∀ parameter ∈ parameters, parameter.Satisfies Parameter.HasJsonValues :=
  ensures_checkList json fun _ json =>
    ensures_checkOrReference _ json fun _ => ensures_checkParameter

private theorem ensures_checkOperation (members : Json.AreMembers entries) :
    (checkOperation entries).Ensures Operation.HasJsonValues := by
  have ofParameters := ensures_optionalField members.each ["parameters"] fun _ =>
    ensures_checkParameters
  have ofBody := ensures_optionalField members.each ["requestBody"] fun _ json =>
    ensures_checkOrReference "RequestBody" json fun _ => ensures_checkRequestBody
  refine .seq (.seq (.seq (.seq (.seq (.seq (.map (.any _) ?_) (.any _)) (.any _)) (.any _))
    ofParameters) ofBody) (.any _)
  intro tags _ summary _ description _ operationId _ parameters ofParameters body ofBody deprecated
    _
  exact ⟨forall_mem_getD ofParameters, ofBody⟩

theorem isJson_operationsOf (members : Json.AreMembers entries) :
    (operationsOf entries).IsJson := by
  rw [operationsOf]
  split
  · rename_i found
    exact members.each _ (mem_of_lookup found)
  · refine .map ?_ (fun entry member => ?_) (fun entry member => ?_)
    · exact members.distinct.sublist (List.filter_sublist.map _)
    · exact members.named entry (List.mem_of_mem_filter member)
    · exact members.each entry (List.mem_of_mem_filter member)

private theorem ensures_checkPathItem (members : Json.AreMembers entries) :
    (checkPathItem entries).Ensures PathItem.HasJsonValues := by
  have ofParameters := ensures_optionalField members.each ["parameters"] fun _ =>
    ensures_checkParameters
  have ofOperations := ensures_checkMapping (isJson_operationsOf members) fun _ json =>
    ensures_checkModel "Operation" json fun _ => ensures_checkOperation
  refine .seq (.seq (.seq (.map (.any _) ?_) (.any _)) ofParameters) (ofOperations.within _)
  intro summary _ description _ parameters ofParameters operations ofOperations
  exact ⟨forall_mem_getD ofParameters, ofOperations.1, ofOperations.2⟩

private theorem ensures_checkComponents (members : Json.AreMembers entries) :
    (checkComponents entries).Ensures Components.HasJsonValues := by
  have ofSchemas := ensures_optionalField members.each ["schemas"] fun _ json =>
    ensures_checkMapping json fun _ => ensures_checkNode
  have ofParameters := ensures_optionalField members.each ["parameters"] fun _ json =>
    ensures_checkMapping json fun _ json =>
      ensures_checkOrReference "Parameter" json fun _ => ensures_checkParameter
  have ofBodies := ensures_optionalField members.each ["requestBodies"] fun _ json =>
    ensures_checkMapping json fun _ json =>
      ensures_checkOrReference "RequestBody" json fun _ => ensures_checkRequestBody
  refine .seq (.seq (.map ofSchemas ?_) ofParameters) ofBodies
  intro schemas ofSchemas parameters ofParameters bodies ofBodies
  exact ⟨forall_mem_getD fun given there => (ofSchemas given there).2,
    forall_mem_getD fun given there => (ofParameters given there).2,
    forall_mem_getD fun given there => (ofBodies given there).2⟩

private theorem ensures_checkDocument {value : Value} (json : value.IsJson) :
    (checkDocument value).Ensures Document.HasJsonValues := by
  refine ensures_checkModel _ json fun entries members => ?_
  have ofPaths := ensures_optionalField members.each ["paths"] fun _ json =>
    ensures_checkMapping json fun _ json =>
      ensures_checkModel "PathItem" json fun _ => ensures_checkPathItem
  have ofComponents := ensures_optionalField members.each ["components"] fun _ json =>
    ensures_checkModel "Components" json fun _ => ensures_checkComponents
  refine .seq (.seq (.seq (.map (.any _) ?_) (.any _)) ofPaths) ofComponents
  intro version _ info _ paths ofPaths components ofComponents
  refine ⟨?_, forall_mem_getD fun given there => (ofPaths given there).2, ofComponents⟩
  cases paths with
  | none => exact .nil
  | some paths => exact (ofPaths paths rfl).1

end

/-- A document that has been read from JSON and found to be one. -/
def Document.IsFromJson (document : Document) : Prop :=
  ∃ characters value fields isExact, Json.read characters = .ok value ∧
    checkDocument value = .accepted document fields isExact

theorem Document.IsFromJson.hasJsonValues {document : Document} (json : document.IsFromJson) :
    document.HasJsonValues := by
  obtain ⟨characters, value, fields, isExact, reads, accepted⟩ := json
  exact (ensures_checkDocument (Json.isJson_of_read reads)).of_accepted accepted

theorem accepted_of_validate {value : Value} {document : Document}
    (valid : validate value = .ok document) :
    ∃ fields isExact, checkDocument value = .accepted document fields isExact := by
  rw [validate] at valid
  split at valid
  · split at valid
    · cases valid
    · cases valid
    · split at valid
      · rename_i accepted
        cases valid
        exact ⟨_, _, accepted⟩
      · cases valid
  · cases valid

/-- What counts as valid is such a document, and says by which version it goes. -/
theorem Document.isFromJson_of_validate {characters : List Char} {value : Value}
    {document : Document} (reads : Json.read characters = .ok value)
    (valid : validate value = .ok document) : document.IsFromJson := by
  obtain ⟨fields, isExact, accepted⟩ := accepted_of_validate valid
  exact ⟨characters, value, fields, isExact, reads, accepted⟩

end ApiClient
