import ApiClient.Generation
import ApiClient.Proofs.Document.Changes
import Mathlib.Logic.Relation

/-! Two ways to say which kind of values a schema has. A list of kinds, with null among them,
says the same as the first other kind and the word that the schema is nullable. A document stays
the same whichever way its schemas take. -/

namespace ApiClient

/-! ## Schemas -/

/-- The first kind of a list that is not null, or null where there is no other. -/
inductive IsFirstKind : List Value → Value → Prop
  | first (before : List Value) (nulls : ∀ kind ∈ before, kind = .text "null") {kind : Value}
      (other : kind ≠ .text "null") (after : List Value) :
      IsFirstKind (before ++ kind :: after) kind
  | none {kinds : List Value} (nulls : ∀ kind ∈ kinds, kind = .text "null") :
      IsFirstKind kinds (.text "null")

/-- A schema has a single kind in place of a list. It says that it is nullable if null is in the
list, unless it says already whether it is. -/
structure IsRespelled (kinds : List Value) (kind : Value) (entries others : List (Value × Value)) :
    Prop where
  first : IsFirstKind kinds kind
  listed : Value.lookup "type" entries = some (.list kinds)
  single : Value.lookup "type" others = some kind
  nullable : .text "null" ∈ kinds → Value.lookup "nullable" entries = none →
    Value.lookup "nullable" others = some (.bool true)
  unsaid : .text "null" ∉ kinds ∨ Value.lookup "nullable" entries ≠ none →
    Value.lookup "nullable" others = Value.lookup "nullable" entries
  rest : ∀ key, key ≠ ("type" : Text) → key ≠ ("nullable" : Text) →
    Value.lookup key others = Value.lookup key entries

/-- A schema, or one that stands somewhere inside it, is respelled. The single kind is not a list in
turn. -/
inductive RespellsSchema : Value → Value → Prop
  | here {kinds : List Value} {kind : Value} {entries others : List (Value × Value)}
      (single : ∀ inner, kind.opened ≠ .list inner)
      (respelled : IsRespelled kinds kind entries others) :
      RespellsSchema (.map entries) (.map others)
  | items (before after : List (Value × Value)) {old new : Value}
    (inside : RespellsSchema old new) :
      RespellsSchema (.map (before ++ (.text "items", old) :: after))
        (.map (before ++ (.text "items", new) :: after))
  | property (before after earlier later : List (Value × Value)) {name : Text} {old new : Value}
      (inside : RespellsSchema old new) :
      RespellsSchema
        (.map (before ++
          (.text "properties", .map (earlier ++ (.text name, old) :: later)) :: after))
        (.map (before ++
          (.text "properties", .map (earlier ++ (.text name, new) :: later)) :: after))

section

variable {kinds : List Value} {kind : Value} {entries others : List (Value × Value)}

private theorem IsFirstKind.headD_eq (first : IsFirstKind kinds kind) :
    (kinds.filter fun kind => !kind.sameKey (.text "null")).headD (.text "null") = kind := by
  have dropped {nulls : List Value} (each : ∀ kind ∈ nulls, kind = .text "null") :
      (nulls.filter fun kind => !kind.sameKey (.text "null")) = [] :=
    List.filter_eq_nil_iff.mpr fun kind member => by simp [Value.sameKey_text_iff, each kind member]
  cases first with
  | first before nulls other after =>
      rw [List.filter_append, dropped nulls, List.nil_append, List.filter_cons_of_pos]
      · rfl
      · simpa [Value.sameKey_text_iff, Bool.eq_false_iff] using other
  | none nulls => rw [dropped nulls]; rfl

private theorem length_otherKinds_eq_iff :
    (kinds.filter fun kind => !kind.sameKey (.text "null")).length = kinds.length ↔
      .text "null" ∉ kinds := by
  rw [List.length_filter_eq_length_iff]
  simp only [Bool.not_eq_true', Bool.eq_false_iff, ne_eq, Value.sameKey_text_iff]
  constructor
  · exact fun each member => each _ member rfl
  · exact fun absent kind member same => absent (same ▸ member)

/-- Reading a schema respells it. -/
theorem isRespelled_collapseKinds (first : IsFirstKind kinds kind)
    (listed : Value.lookup "type" entries = some (.list kinds)) :
    IsRespelled kinds kind entries (collapseKinds entries) := by
  have collapsed : collapseKinds entries = Value.put (.text "type") kind
      (if (kinds.filter fun kind => !kind.sameKey (.text "null")).length = kinds.length ∨
          (Value.lookup "nullable" entries).isSome then entries
        else Value.put (.text "nullable") (.bool true) entries) := by
    rw [collapseKinds, listed, Option.map_some, Value.opened]
    · dsimp only
      rw [first.headD_eq]
    · exact nofun
  refine ⟨first, listed, ?_, fun member absent => ?_, fun silent => ?_,
    fun key notKind notNullable => ?_⟩
  · rw [collapsed, lookup_put, if_pos rfl]
  · have adds : ¬((kinds.filter fun kind => !kind.sameKey (.text "null")).length = kinds.length ∨
        (Value.lookup "nullable" entries).isSome) := by
      rw [length_otherKinds_eq_iff, absent]
      simp [member]
    rw [collapsed, lookup_put, if_neg (by decide), if_neg adds, lookup_put, if_pos rfl]
  · rw [collapsed, lookup_put, if_neg (by decide), if_pos]
    exact silent.imp length_otherKinds_eq_iff.mpr Option.ne_none_iff_isSome.mp
  · rw [collapsed, lookup_put, if_neg notKind.symm]
    split
    · rfl
    · rw [lookup_put, if_neg notNullable.symm]

private theorem IsRespelled.lookup_eq {another : List (Value × Value)}
    (one : IsRespelled kinds kind entries others) (two : IsRespelled kinds kind entries another)
    (key : Text) : Value.lookup key others = Value.lookup key another := by
  by_cases isKind : key = "type"
  · rw [isKind, one.single, two.single]
  · by_cases isNullable : key = "nullable"
    · subst isNullable
      by_cases adds : .text "null" ∈ kinds ∧ Value.lookup "nullable" entries = none
      · rw [one.nullable adds.1 adds.2, two.nullable adds.1 adds.2]
      · rw [not_and_or] at adds
        rw [one.unsaid adds, two.unsaid adds]
    · rw [one.rest key isKind isNullable, two.rest key isKind isNullable]

/-- Nothing is left to do where there is a single kind. -/
theorem collapseKinds_single (found : Value.lookup "type" entries = some kind)
    (single : ∀ inner, kind.opened ≠ .list inner) : collapseKinds entries = entries := by
  rw [collapseKinds, found, Option.map_some]
  split
  · rename_i inner isList
    exact absurd (Option.some.inj isList) (single inner)
  · rfl

/-- Only two fields of a schema have to do with its kinds. -/
theorem lookup_collapseKinds_other {key : Text} (notKind : key ≠ "type")
    (notNullable : key ≠ "nullable") :
    Value.lookup key (collapseKinds entries) = Value.lookup key entries := by
  rw [collapseKinds]
  split
  · rw [lookup_put, if_neg notKind.symm]
    split
    · rfl
    · rw [lookup_put, if_neg notNullable.symm]
  · rfl

private theorem lookup_collapseKinds_congr
    (kinds : Value.lookup "type" entries = Value.lookup "type" others)
    (nullable : Value.lookup "nullable" entries = Value.lookup "nullable" others) {key : Text}
    (same : Value.lookup key entries = Value.lookup key others) :
    Value.lookup key (collapseKinds entries) = Value.lookup key (collapseKinds others) := by
  rw [collapseKinds, collapseKinds, kinds]
  split
  · rw [lookup_put, lookup_put, nullable]
    split
    · rfl
    · split
      · exact same
      · rw [lookup_put, lookup_put, same]
  · exact same

private theorem lookup_collapseKinds_replaced {before after : List (Value × Value)}
    {name key : Text} {old new : Value} (unrelated : name ∉ (["type", "nullable"] : List Text))
    (different : key ≠ name) :
    Value.lookup key (collapseKinds (before ++ (.text name, old) :: after)) =
      Value.lookup key (collapseKinds (before ++ (.text name, new) :: after)) :=
  lookup_collapseKinds_congr (lookups_replaced unrelated "type" (by decide))
    (lookups_replaced unrelated "nullable" (by decide)) (lookup_replaced old new different)

/-! ## Nodes -/

private theorem optionalField_collapseKinds {α : Type} {check : Value → Check α} {name : Text}
    (unrelated : name ∉ (["type", "nullable"] : List Text))
    (alike : FoundAlike check (Value.lookup name entries) (Value.lookup name others)) :
    optionalField (collapseKinds entries) [name] check =
      optionalField (collapseKinds others) [name] check := by
  have notKind : name ≠ "type" := fun same => unrelated (same ▸ List.mem_cons_self)
  have notNullable : name ≠ "nullable" := by
    rintro rfl
    exact unrelated (List.mem_cons_of_mem _ List.mem_cons_self)
  refine optionalField_alike (List.forall_mem_singleton.mpr ?_)
  rwa [lookup_collapseKinds_other notKind notNullable,
    lookup_collapseKinds_other notKind notNullable]

/-- The check of a schema comes out the same where its plain fields are the same, and the schemas in
it are checked to the same. -/
theorem checkSchema_congr {checkPart : Value → Check Node}
    (plain : ∀ key, key ≠ ("items" : Text) → key ≠ ("properties" : Text) →
      Value.lookup key (collapseKinds entries) = Value.lookup key (collapseKinds others))
    (items : FoundAlike checkPart (Value.lookup "items" entries) (Value.lookup "items" others))
    (properties : FoundAlike (checkMapping checkPart) (Value.lookup "properties" entries)
      (Value.lookup "properties" others)) :
    checkSchema checkPart (.map entries) = checkSchema checkPart (.map others) := by
  have ofPlain {α : Type} {check : Value → Check α} {name : Text} (notItems : name ≠ "items")
      (notProperties : name ≠ "properties") :
      optionalField (collapseKinds entries) [name] check =
        optionalField (collapseKinds others) [name] check :=
    optionalField_congr (List.forall_mem_singleton.mpr (plain name notItems notProperties))
  have ofItems := optionalField_collapseKinds (by decide) items
  have ofProperties := optionalField_collapseKinds (by decide) properties
  simp (disch := decide) only [checkSchema, checkModel, Value.opened, ofPlain, ofItems,
    ofProperties]

private theorem checkNodeWithin_congr
    (pointer : ∀ key ∈ (["$ref", "ref"] : List Text),
      Value.lookup key entries = Value.lookup key others)
    (schema : ∀ entered depth, checkSchema (checkNodeWithin entered depth) (.map entries) =
      checkSchema (checkNodeWithin entered depth) (.map others))
    (entered : List Nat) (depth : Nat) :
    checkNodeWithin entered depth (.map entries) = checkNodeWithin entered depth (.map others) := by
  have ofReference : checkReference (.map entries) = checkReference (.map others) :=
    requiredField_congr pointer
  have isReference_eq : isReference (.map entries) = isReference (.map others) :=
    congrArg Option.isSome (pointer "$ref" List.mem_cons_self)
  cases depth with
  | zero => rw [checkNodeWithin, checkNodeWithin, isReference_eq, ofReference]
  | succ depth =>
      rw [checkNodeWithin, checkNodeWithin, isReference_eq, ofReference, schema]
      · exact nofun
      · exact nofun

end

private theorem RespellsSchema.present {old new : Value} (respells : RespellsSchema old new) :
    old ≠ .null ∧ new ≠ .null := by
  cases respells <;> exact ⟨nofun, nofun⟩

private theorem checkNodeWithin_respelled {old new : Value} (respells : RespellsSchema old new)
    (entered : List Nat) (depth : Nat) :
    checkNodeWithin entered depth old = checkNodeWithin entered depth new := by
  -- The induction follows the way to the schema. The check goes down with it, and what it has
  -- entered and how deep it may still look changes on the way.
  induction respells generalizing entered depth with
  | @here kinds kind entries others single respelled =>
      have collapsed := isRespelled_collapseKinds respelled.first respelled.listed
      refine checkNodeWithin_congr (fun key member => ?_) (fun entered depth => ?_) entered depth
      · refine (respelled.rest key ?_ ?_).symm <;> rintro rfl <;> revert member <;> decide
      · refine checkSchema_congr (fun key _ _ => ?_) (.of_eq ?_) (.of_eq ?_)
        · rw [collapseKinds_single respelled.single single]
          exact collapsed.lookup_eq respelled key
        · exact (respelled.rest "items" (by decide) (by decide)).symm
        · exact (respelled.rest "properties" (by decide) (by decide)).symm
  | items before after inside induction =>
      refine checkNodeWithin_congr (lookups_replaced (by decide)) (fun entered depth => ?_)
        entered depth
      have ofPart := orNull_congr (induction entered depth) inside.present
      exact checkSchema_congr
        (fun key notItems _ => lookup_collapseKinds_replaced (by decide) notItems)
        (foundAlike_replaced ofPart _) (.of_eq (lookup_replaced _ _ (by decide)))
  | property before after earlier later inside induction =>
      refine checkNodeWithin_congr (lookups_replaced (by decide)) (fun entered depth => ?_)
        entered depth
      refine checkSchema_congr
        (fun key _ notProperties => lookup_collapseKinds_replaced (by decide) notProperties)
        (.of_eq (lookup_replaced _ _ (by decide))) (foundAlike_replaced ?_ _)
      exact orNull_congr (checkMapping_replaced (induction entered depth)) ⟨nofun, nofun⟩

theorem ignores_checkNode : Ignores checkNode RespellsSchema where
  same respells := checkNodeWithin_respelled respells [] greatestDepth
  present := RespellsSchema.present

/-! ## Documents -/

/-- A member of any name is changed. -/
def InAny (change : Value → Value → Prop) : Value → Value → Prop :=
  InMember (fun _ => True) change

/-- The member of a name is changed. -/
def Under (name : Text) (change : Value → Value → Prop) : Value → Value → Prop :=
  InMember (· = name) change

/-- A parameter or a media type has its schema respelled. -/
def RespellsHolder : Value → Value → Prop :=
  InMember (fun name => name = "schema" ∨ name = "schema_") RespellsSchema

def RespellsRequestBody : Value → Value → Prop :=
  Under "content" (InAny RespellsHolder)

def RespellsOperation (old new : Value) : Prop :=
  Under "parameters" (InElement RespellsHolder) old new ∨
    Under "requestBody" RespellsRequestBody old new

def RespellsPathItem (old new : Value) : Prop :=
  Under "parameters" (InElement RespellsHolder) old new ∨
    InMember (· ∈ httpMethods) RespellsOperation old new ∨
    Under "operations" (InAny RespellsOperation) old new

def RespellsComponents (old new : Value) : Prop :=
  Under "schemas" (InAny RespellsSchema) old new ∨
    Under "parameters" (InAny RespellsHolder) old new ∨
    Under "requestBodies" (InAny RespellsRequestBody) old new

/-- A document with one schema respelled, wherever it stands. -/
def RespellsDocument (old new : Value) : Prop :=
  Under "paths" (InAny RespellsPathItem) old new ∨ Under "components" RespellsComponents old new

private theorem ignores_parameter :
    Ignores (checkModel "Parameter" checkParameter) RespellsHolder := by
  refine ignores_checkModel _ ?_
  intro before after name old new named changed
  have same := ignores_checkNode.orNull_eq changed
  rcases named with rfl | rfl <;>
    simp (disch := decide) only [checkParameter, requiredField_other old new,
      optionalField_other old new, optionalField_member same]

private theorem ignores_mediaType :
    Ignores (checkModel "MediaType" checkMediaType) RespellsHolder := by
  refine ignores_checkModel _ ?_
  intro before after name old new named changed
  rw [checkMediaType, checkMediaType, optionalField_member (ignores_checkNode.orNull_eq changed)]

private theorem ignores_requestBody :
    Ignores (checkModel "RequestBody" checkRequestBody) RespellsRequestBody := by
  refine ignores_checkModel _ ?_
  rintro before after _ old new rfl changed
  have same := (ignores_checkMapping ignores_mediaType).orNull_eq changed
  simp (disch := decide) only [checkRequestBody, optionalField_other old new,
    optionalField_member same]

private theorem ignores_parameterNode :
    Ignores (checkOrReference "Parameter" checkParameter) RespellsHolder :=
  ignores_checkOrReference (by rintro _ (rfl | rfl) <;> decide) ignores_parameter

private theorem ignores_requestBodyNode :
    Ignores (checkOrReference "RequestBody" checkRequestBody) RespellsRequestBody :=
  ignores_checkOrReference (by rintro _ rfl; decide) ignores_requestBody

private theorem ignores_parameters : Ignores checkParameters (InElement RespellsHolder) :=
  ignores_checkList ignores_parameterNode

private theorem ignores_operation :
    Ignores (checkModel "Operation" checkOperation) RespellsOperation := by
  refine .or (ignores_checkModel _ ?_) (ignores_checkModel _ ?_)
  · rintro before after _ old new rfl changed
    have same := ignores_parameters.orNull_eq changed
    simp (disch := decide) only [checkOperation, optionalField_other old new,
      optionalField_member same]
  · rintro before after _ old new rfl changed
    have same := ignores_requestBodyNode.orNull_eq changed
    simp (disch := decide) only [checkOperation, optionalField_other old new,
      optionalField_member same]

private theorem ignores_operations :
    Ignores (checkMapping (checkModel "Operation" checkOperation)) (InAny RespellsOperation) :=
  ignores_checkMapping ignores_operation

section

variable {before after : List (Value × Value)} {name : Text} {old new : Value}

private theorem operationsOf_other (old new : Value) (notOperations : "operations" ≠ name)
    (notMethod : name ∉ httpMethods) :
    operationsOf (before ++ (.text name, old) :: after) =
      operationsOf (before ++ (.text name, new) :: after) := by
  rw [operationsOf, operationsOf, lookup_replaced old new notOperations]
  split
  · rfl
  · simp [List.filter_append, notMethod]

/-- The operations of a path item are checked to the same where one of them is. -/
theorem checkOperations_method (method : name ∈ httpMethods) (changed : RespellsOperation old new) :
    checkMapping (checkModel "Operation" checkOperation)
        (operationsOf (before ++ (.text name, old) :: after)) =
      checkMapping (checkModel "Operation" checkOperation)
        (operationsOf (before ++ (.text name, new) :: after)) := by
  have notOperations : ("operations" : Text) ≠ name := by
    rintro rfl
    revert method
    decide
  rw [operationsOf, operationsOf, lookup_replaced old new notOperations]
  split
  · rfl
  · simp only [List.filter_append, List.filter_cons, List.contains_iff_mem, method, if_true]
    exact ignores_operations.same (.intro _ _ trivial changed)

private theorem checkOperations_member (changed : InAny RespellsOperation old new) :
    checkMapping (checkModel "Operation" checkOperation)
        (operationsOf (before ++ (.text "operations", old) :: after)) =
      checkMapping (checkModel "Operation" checkOperation)
        (operationsOf (before ++ (.text "operations", new) :: after)) := by
  rw [operationsOf, operationsOf, lookup_append, lookup_append, Value.lookup, Value.lookup,
    if_pos rfl, if_pos rfl]
  cases Value.lookup "operations" before with
  | none => exact ignores_operations.same changed
  | some operations => rfl

end

private theorem ignores_pathItem :
    Ignores (checkModel "PathItem" checkPathItem) RespellsPathItem := by
  refine .or (ignores_checkModel _ ?_) (.or (ignores_checkModel _ ?_) (ignores_checkModel _ ?_))
  · rintro before after _ old new rfl changed
    have same := ignores_parameters.orNull_eq changed
    rw [checkPathItem, checkPathItem, operationsOf_other old new (by decide) (by decide)]
    simp (disch := decide) only [optionalField_other old new, optionalField_member same]
  · intro before after name old new method changed
    have apart : ∀ name ∈ httpMethods,
        name ∉ (["summary"] : List Text) ∧ name ∉ (["description"] : List Text) ∧
          name ∉ (["parameters"] : List Text) := by decide
    obtain ⟨notSummary, notDescription, notParameters⟩ := apart name method
    rw [checkPathItem, checkPathItem, checkOperations_method method changed,
      optionalField_other old new notSummary, optionalField_other old new notDescription,
      optionalField_other old new notParameters]
  · rintro before after _ old new rfl changed
    rw [checkPathItem, checkPathItem, checkOperations_member changed]
    simp (disch := decide) only [optionalField_other old new]

private theorem ignores_components :
    Ignores (checkModel "Components" checkComponents) RespellsComponents := by
  refine .or (ignores_checkModel _ ?_) (.or (ignores_checkModel _ ?_) (ignores_checkModel _ ?_))
  · rintro before after _ old new rfl changed
    have same := (ignores_checkMapping ignores_checkNode).orNull_eq changed
    simp (disch := decide) only [checkComponents, optionalField_other old new,
      optionalField_member same]
  · rintro before after _ old new rfl changed
    have same := (ignores_checkMapping ignores_parameterNode).orNull_eq changed
    simp (disch := decide) only [checkComponents, optionalField_other old new,
      optionalField_member same]
  · rintro before after _ old new rfl changed
    have same := (ignores_checkMapping ignores_requestBodyNode).orNull_eq changed
    simp (disch := decide) only [checkComponents, optionalField_other old new,
      optionalField_member same]

private theorem ignores_document : Ignores checkDocument RespellsDocument := by
  refine .or (ignores_checkModel _ ?_) (ignores_checkModel _ ?_)
  · rintro before after _ old new rfl changed
    have same := (ignores_checkMapping ignores_pathItem).orNull_eq changed
    simp (disch := decide) only [optionalField_other old new, optionalField_member same]
  · rintro before after _ old new rfl changed
    have same := ignores_components.orNull_eq changed
    simp (disch := decide) only [optionalField_other old new, optionalField_member same]

private theorem lookup_respelled {entries others : List (Value × Value)}
    (respells : RespellsDocument (.map entries) (.map others)) :
    Value.lookup "openapi" entries = Value.lookup "openapi" others := by
  rcases respells with ⟨before, after, rfl, -⟩ | ⟨before, after, rfl, -⟩
  · exact lookup_replaced _ _ (by decide)
  · exact lookup_replaced _ _ (by decide)

private theorem validate_respelled_once {old new : Value} (respells : RespellsDocument old new) :
    validate old = validate new := by
  have ofDocument := ignores_document.same respells
  obtain ⟨entries, others, rfl, rfl⟩ :
      ∃ entries others, old = .map entries ∧ new = .map others := by
    rcases respells with ⟨_, _, -, -⟩ | ⟨_, _, -, -⟩ <;> exact ⟨_, _, rfl, rfl⟩
  rw [validate, validate, Value.opened, Value.opened]
  · dsimp only
    rw [lookup_respelled respells, ofDocument]
  · exact nofun
  · exact nofun

/-- A document with lists of kinds is the same document, or has the same problems, as one with
any of its schemas respelled. The same code is generated from it. -/
theorem validate_respelled {old new : Value}
    (respells : Relation.ReflTransGen RespellsDocument old new) :
    validate new = validate old ∧ ∀ directory settings,
      (validate new).map (fun document => (generateSources directory settings document).outcome) =
        (validate old).map fun document =>
          (generateSources directory settings document).outcome := by
  have same : validate new = validate old := by
    induction respells with
    | refl => rfl
    | tail _ step induction => rw [← validate_respelled_once step, induction]
  exact ⟨same, fun directory settings => by rw [same]⟩

/-- A document with a parameter that has the given schema. -/
def withParameterSchema (schema : Value) : Value :=
  .map [
    (.text "openapi", .text "3.1.0"),
    (.text "paths", .map [(.text "/a", .map [(.text "parameters", .list [.map [
      (.text "name", .text "n"), (.text "in", .text "query"), (.text "schema", schema)]])])])]

private theorem RespellsSchema.withParameterSchema {old new : Value}
    (respells : RespellsSchema old new) :
    RespellsDocument (withParameterSchema old) (withParameterSchema new) :=
  .inl (.intro [_] [] rfl (.intro [] [] trivial (.inl (.intro [] [] rfl (.intro [] []
    (.intro [_, _] [] (.inl rfl) respells))))))

/-- A list of texts, or null, where the texts may be null in turn. -/
def listedKinds : Value :=
  .map [
    (.text "type", .list [.text "null", .text "array"]),
    (.text "items", .map [(.text "type", .list [.text "string", .text "null"])])]

def singleKinds : Value :=
  .map [
    (.text "type", .text "array"),
    (.text "items", .map [(.text "type", .text "string"), (.text "nullable", .bool true)]),
    (.text "nullable", .bool true)]

theorem validate_respelled_singleKinds :
    Relation.ReflTransGen RespellsDocument (withParameterSchema listedKinds)
      (withParameterSchema singleKinds) ∧
    validate (withParameterSchema singleKinds) = validate (withParameterSchema listedKinds) ∧
    ∃ document, validate (withParameterSchema listedKinds) = .ok document := by
  have ofItems : RespellsSchema listedKinds (.map [
      (.text "type", .list [.text "null", .text "array"]),
      (.text "items", .map [(.text "type", .text "string"), (.text "nullable", .bool true)])]) := by
    have first : IsFirstKind [.text "string", .text "null"] (.text "string") :=
      .first [] (List.forall_mem_nil _) (fun same => absurd (Value.text.inj same) (by decide)) _
    exact .items [_] [] (.here (by simp [Value.opened]) (isRespelled_collapseKinds first rfl))
  have ofList : RespellsSchema (.map [
      (.text "type", .list [.text "null", .text "array"]),
      (.text "items", .map [(.text "type", .text "string"), (.text "nullable", .bool true)])])
      singleKinds := by
    have first : IsFirstKind [.text "null", .text "array"] (.text "array") :=
      .first [.text "null"] (List.forall_mem_singleton.mpr rfl)
        (fun same => absurd (Value.text.inj same) (by decide)) []
    exact .here (by simp [Value.opened]) (isRespelled_collapseKinds first rfl)
  have respells := Relation.ReflTransGen.single ofItems.withParameterSchema |>.tail
    ofList.withParameterSchema
  exact ⟨respells, (validate_respelled respells).1, _, rfl⟩

/-- A list of kinds becomes one kind only once, and a list in it is no kind. -/
theorem validate_nestedKinds :
    IsRespelled [.list [.text "string"]] (.list [.text "string"])
      [(.text "type", .list [.list [.text "string"]])] [(.text "type", .list [.text "string"])] ∧
    (∃ problems, validate (withParameterSchema
      (.map [(.text "type", .list [.list [.text "string"]])])) = .error problems) ∧
    ∃ document, validate (withParameterSchema
      (.map [(.text "type", .list [.text "string"])])) = .ok document := by
  have first : IsFirstKind [.list [.text "string"]] (.list [.text "string"]) :=
    .first [] (List.forall_mem_nil _) (by simp) []
  refine ⟨⟨first, rfl, rfl, ?_, fun _ => rfl, ?_⟩, ⟨_, rfl⟩, _, rfl⟩
  · intro member
    simp at member
  · intro key notKind notNullable
    simp [Value.lookup, notKind.symm]

end ApiClient
