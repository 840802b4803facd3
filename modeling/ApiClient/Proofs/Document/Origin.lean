import ApiClient.Proofs.Document.Values

/-! Where the parts of a document come from. A document has its parts in the order in which they
stand in the data, under the same names: paths and their operations, lists of parameters, and
components. What a single node was read from is kept, so that the choice between a reference and
a part given in place can be told from the data. -/

namespace ApiClient

/-! ## Data -/

namespace Value

/-- The members of an object with their names. -/
def members : Value → List (Text × Value)
  | .map entries => entries.filterMap fun
    | (.text name, value) => some (name, value)
    | _ => none
  | _ => []

def elements : Value → List Value
  | .list items => items
  | _ => []

/-- What stands under a name, or null. -/
def under (value : Value) (name : Text) : Value :=
  (value.field? name).getD .null

/-- A value as a list, which is empty where there is nothing. -/
def given : Value → List Value
  | .null => []
  | value => [value]

theorem given_eq {value : Value} (present : value ≠ .null) : value.given = [value] := by
  rw [given.eq_def]
  split
  · contradiction
  · rfl

/-- The members of a path item that have the name of a method. -/
def methods (item : Value) : List (Text × Value) :=
  item.members.filter fun member => httpMethods.contains member.1

/-- The operations of a path item with their methods. They stand under these, unless the path
item has a member for its operations. -/
def operations (item : Value) : List (Text × Value) :=
  match item.field? "operations" with
  | some operations => operations.members
  | none => item.methods

namespace IsJson

variable {value : Value}

private theorem areMembers {entries : List (Value × Value)} (json : (Value.map entries).IsJson) :
    Json.AreMembers entries := by
  cases json with
  | map distinct named each => exact ⟨distinct, named, each⟩

theorem under (json : value.IsJson) (name : Text) : (value.under name).IsJson := by
  cases json with
  | @map entries distinct named each =>
      rw [Value.under, field?]
      cases found : lookup name entries with
      | none => exact .null
      | some content => exact each _ (mem_of_lookup found)
  | _ => exact .null

end IsJson

end Value

/-! ## Collections -/

section

variable {α : Type} {related : Value → α → Prop} {check : Value → Check α} {value : Value}
  {entries : List (Value × Value)}

/-- What a check makes of data. -/
def Check.Gives (check : Check α) (result : α) : Prop :=
  ∃ fields isExact, check = .accepted result fields isExact

private theorem Check.ensures_gives (check : Check α) : check.Ensures check.Gives := by
  cases check with
  | accepted result fields isExact => exact ⟨fields, isExact, rfl⟩
  | refused problems => trivial

private theorem ensures_checkList_alike (json : value.IsJson)
    (ensures : ∀ item, item.IsJson → (check item).Ensures (related item)) :
    (checkList check value).Ensures (List.Forall₂ related value.elements) := by
  rw [checkList, json.opened_eq]
  cases json with
  | list each => exact .each (fun item member => ensures item (each item member)) 0
  | _ => exact .refuse _

/-- Members that have the same name and are otherwise related. -/
def SameName (related : Value → α → Prop) (member : Text × Value) (result : Text × α) : Prop :=
  member.1 = result.1 ∧ related member.2 result.2

private theorem forall₂_members {results : List (Text × α)}
    (alike : List.Forall₂
      (fun entry result => entry.1 = .text result.1 ∧ related entry.2 result.2) entries results) :
    List.Forall₂ (SameName related) (Value.map entries).members results := by
  induction alike with
  | nil => exact .nil
  | @cons entry result _ _ first _ induction =>
      obtain ⟨key, content⟩ := entry
      obtain ⟨rfl, holds⟩ := first
      exact .cons ⟨rfl, holds⟩ induction

private theorem ensures_checkMapping_alike (json : value.IsJson)
    (ensures : ∀ part, part.IsJson → (check part).Ensures (related part)) :
    (checkMapping check value).Ensures (List.Forall₂ (SameName related) value.members) := by
  rw [checkMapping, json.opened_eq]
  cases json with
  | map distinct named each =>
      exact (ensures_checkEntries related named fun entry member =>
        ensures _ (each entry member)).imp fun results => forall₂_members
  | _ => exact .refuse _

/-! ## Fields -/

/-- A field is null where there is nothing under its name. -/
theorem ensures_field (name : Text) {property : Option α → Prop}
    (ensures : (orNull check ((Value.map entries).under name)).Ensures property) :
    (optionalField entries [name] check).Ensures property := by
  rw [Value.under, Value.field?] at ensures
  rw [optionalField, lookupAmong]
  cases found : Value.lookup name entries with
  | none =>
      rw [found] at ensures
      exact ensures
  | some part =>
      rw [found] at ensures
      exact (ensures.within name).addField

theorem ensures_orNull_alike {property : Option α → Prop} (absent : value = .null → property none)
    (ensures : value ≠ .null → (check value).Ensures fun result => property (some result)) :
    (orNull check value).Ensures property := by
  rw [orNull.eq_def]
  split
  · exact .pure (absent rfl)
  · rename_i present
    exact (ensures present).map fun result holds => holds

private theorem ensures_listField (json : (Value.map entries).IsJson) (name : Text)
    (ensures : ∀ item, item.IsJson → (check item).Ensures (related item)) :
    (optionalField entries [name] (checkList check)).Ensures fun results =>
      List.Forall₂ related ((Value.map entries).under name).elements (results.getD []) := by
  refine ensures_field name (ensures_orNull_alike (fun absent => ?_) ?_)
  · rw [absent]
    exact .nil
  · exact fun _ => ensures_checkList_alike (json.under name) ensures

private theorem ensures_mappingField (json : (Value.map entries).IsJson) (name : Text)
    (ensures : ∀ part, part.IsJson → (check part).Ensures (related part)) :
    (optionalField entries [name] (checkMapping check)).Ensures fun results =>
      List.Forall₂ (SameName related) ((Value.map entries).under name).members
        (results.getD []) := by
  refine ensures_field name (ensures_orNull_alike (fun absent => ?_) ?_)
  · rw [absent]
    exact .nil
  · exact fun _ => ensures_checkMapping_alike (json.under name) ensures

end

/-! ## Models -/

/-- A node as it was read, as a reference or as a part given in place. -/
structure NodeOrigin {α : Type} (model : Text) (check : List (Value × Value) → Check α)
    (value : Value) (node : OrReference α) : Prop where
  json : value.IsJson
  gives : (checkOrReference model check value).Gives node

theorem NodeOrigin.ensures {α : Type} (model : Text) (check : List (Value × Value) → Check α)
    {value : Value} (json : value.IsJson) :
    (checkOrReference model check value).Ensures (NodeOrigin model check value) :=
  (Check.ensures_gives _).imp fun _ gives => ⟨json, gives⟩

def ParameterOrigin : Value → OrReference Parameter → Prop :=
  NodeOrigin "Parameter" checkParameter

def BodyOrigin : Value → OrReference RequestBody → Prop :=
  NodeOrigin "RequestBody" checkRequestBody

structure Operation.IsReadFrom (value : Value) (operation : Operation) : Prop where
  parameters : List.Forall₂ ParameterOrigin (value.under "parameters").elements
    (operation.parameters.getD [])
  requestBody : List.Forall₂ BodyOrigin (value.under "requestBody").given
    operation.requestBody.toList

structure PathItem.IsReadFrom (value : Value) (item : PathItem) : Prop where
  parameters : List.Forall₂ ParameterOrigin (value.under "parameters").elements
    (item.parameters.getD [])
  operations : List.Forall₂ (SameName Operation.IsReadFrom) value.operations item.operations

structure Components.IsReadFrom (value : Value) (components : Components) : Prop where
  parameters : List.Forall₂ (SameName ParameterOrigin) (value.under "parameters").members
    (components.parameters.getD [])
  requestBodies : List.Forall₂ (SameName BodyOrigin) (value.under "requestBodies").members
    (components.requestBodies.getD [])

structure Document.IsReadFrom (value : Value) (document : Document) : Prop where
  paths : List.Forall₂ (SameName PathItem.IsReadFrom) (value.under "paths").members
    (document.paths.getD [])
  components : (document.components.getD {}).IsReadFrom (value.under "components")

section

variable {value : Value}

theorem ensures_checkModel_alike {α : Type} {property : α → Prop}
    {check : List (Value × Value) → Check α} (model : Text) (json : value.IsJson)
    (ensures : ∀ entries, value = .map entries → (check entries).Ensures property) :
    (checkModel model check value).Ensures property := by
  rw [checkModel, json.opened_eq]
  cases json with
  | map distinct named each => exact ensures _ rfl
  | _ => exact .refuse _

private theorem ensures_parametersField {entries : List (Value × Value)}
    (json : (Value.map entries).IsJson) :
    (optionalField entries ["parameters"] checkParameters).Ensures fun parameters =>
      List.Forall₂ ParameterOrigin ((Value.map entries).under "parameters").elements
        (parameters.getD []) :=
  ensures_listField json "parameters" fun _ => NodeOrigin.ensures _ _

private theorem ensures_operation (json : value.IsJson) :
    (checkModel "Operation" checkOperation value).Ensures (Operation.IsReadFrom value) := by
  refine ensures_checkModel_alike _ json ?_
  rintro entries rfl
  have ofBody : (optionalField entries ["requestBody"]
      (checkOrReference "RequestBody" checkRequestBody)).Ensures fun body =>
        List.Forall₂ BodyOrigin ((Value.map entries).under "requestBody").given body.toList := by
    refine ensures_field "requestBody" (ensures_orNull_alike (fun absent => ?_) fun present => ?_)
    · rw [absent]
      exact .nil
    · rw [Value.given_eq present]
      exact (NodeOrigin.ensures _ _ (json.under "requestBody")).imp fun body origin =>
        .cons origin .nil
  refine .seq (.seq (.seq (.seq (.seq (.seq (.map (.any _) ?_) (.any _)) (.any _)) (.any _))
    (ensures_parametersField json)) ofBody) (.any _)
  intro tags _ summary _ description _ operationId _ parameters ofParameters body ofBody deprecated
    _
  exact ⟨ofParameters, ofBody⟩

private theorem members_operationsOf (entries : List (Value × Value)) :
    (operationsOf entries).members = (Value.map entries).operations := by
  rw [operationsOf, Value.operations, Value.field?]
  cases Value.lookup "operations" entries with
  | some operations => rfl
  | none =>
      rw [Value.methods, Value.members, Value.members, List.filterMap_filter, List.filter_filterMap]
      refine List.filterMap_congr fun entry member => ?_
      obtain ⟨key, content⟩ := entry
      cases key with
      | text name => by_cases known : name ∈ httpMethods <;> simp [known, Option.filter]
      | _ => rfl

private theorem ensures_pathItem (json : value.IsJson) :
    (checkModel "PathItem" checkPathItem value).Ensures (PathItem.IsReadFrom value) := by
  refine ensures_checkModel_alike _ json ?_
  rintro entries rfl
  have ofOperations := ensures_checkMapping_alike (isJson_operationsOf json.areMembers) fun _ =>
    ensures_operation
  rw [members_operationsOf] at ofOperations
  refine .seq (.seq (.seq (.map (.any _) ?_) (.any _)) (ensures_parametersField json))
    (ofOperations.within _)
  intro summary _ description _ parameters ofParameters operations ofOperations
  exact ⟨ofParameters, ofOperations⟩

private theorem ensures_components (json : value.IsJson) :
    (checkModel "Components" checkComponents value).Ensures (Components.IsReadFrom value) := by
  refine ensures_checkModel_alike _ json ?_
  rintro entries rfl
  have ofParameters := ensures_mappingField json "parameters" fun _ =>
    NodeOrigin.ensures "Parameter" checkParameter
  have ofBodies := ensures_mappingField json "requestBodies" fun _ =>
    NodeOrigin.ensures "RequestBody" checkRequestBody
  refine .seq (.seq (.map (.any _) ?_) ofParameters) ofBodies
  intro schemas _ parameters ofParameters bodies ofBodies
  exact ⟨ofParameters, ofBodies⟩

theorem ensures_document (json : value.IsJson) :
    (checkDocument value).Ensures (Document.IsReadFrom value) := by
  refine ensures_checkModel_alike _ json ?_
  rintro entries rfl
  have ofPaths := ensures_mappingField json "paths" fun _ => ensures_pathItem
  have ofComponents : (optionalField entries ["components"]
      (checkModel "Components" checkComponents)).Ensures fun components =>
        (components.getD {}).IsReadFrom ((Value.map entries).under "components") := by
    refine ensures_field "components" (ensures_orNull_alike (fun absent => ?_) fun _ => ?_)
    · rw [absent]
      exact ⟨.nil, .nil⟩
    · exact ensures_components (json.under "components")
  refine .seq (.seq (.seq (.map (.any _) ?_) (.any _)) ofPaths) ofComponents
  intro version _ info _ paths ofPaths components ofComponents
  exact ⟨ofPaths, ofComponents⟩

end

end ApiClient
