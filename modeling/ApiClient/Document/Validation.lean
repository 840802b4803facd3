import ApiClient.Document.Check
import ApiClient.Document.Model

/-! Reading data as an interface description. Unknown keys are ignored everywhere. -/

namespace ApiClient

/-! ## Schemas -/

/-- A list of kinds is one kind: the first that is not null, or null where there is no other. Null
among them makes the schema nullable, unless it says itself whether it is. -/
def collapseKinds (entries : List (Value × Value)) : List (Value × Value) :=
  match (Value.lookup "type" entries).map Value.opened with
  | some (.list kinds) =>
    let others := kinds.filter fun kind => !kind.sameKey (.text "null")
    let entries :=
      if others.length = kinds.length ∨ (Value.lookup "nullable" entries).isSome then entries
      else Value.put (.text "nullable") (.bool true) entries
    Value.put (.text "type") (others.headD (.text "null")) entries
  | _ => entries

/-- Read a mapping as a model. -/
def checkModel (model : Text) (check : List (Value × Value) → Check α) (value : Value) :
    Check α :=
  match value.opened with
  | .map entries => check entries
  | _ => .refuse (.notModel model)

def checkReference : Value → Check Text :=
  checkModel "Reference" fun entries => requiredField entries ["$ref", "ref"] checkText

/-- A schema written in place, given the check of the nodes in it. -/
def checkSchema (checkPart : Value → Check Node) : Value → Check Node :=
  checkModel "Schema" fun entries =>
    let field {α : Type} (name : Text) (check : Value → Check α) :=
      optionalField (collapseKinds entries) [name] check
    (fun title kind format members items properties required nullable description default
        deprecated =>
      .inline
        { title, kind, format, members, required, nullable, description, default, deprecated }
        items properties)
      <$> field "title" checkText
      <*> field "type" checkKind
      <*> field "format" checkText
      <*> field "enum" (checkList checkAny)
      <*> field "items" checkPart
      <*> field "properties" (checkMapping checkPart)
      <*> field "required" (checkList checkText)
      <*> field "nullable" checkTruth
      <*> field "description" checkText
      <*> field "default" checkAny
      <*> field "deprecated" checkTruth

/-- The key `$ref` alone decides that a mapping is a reference. -/
def isReference (value : Value) : Bool :=
  (value.opened.field? "$ref").isSome

/-- How deep schemas are looked into. -/
def greatestDepth : Nat := 254

/-- A node inside schemas, those of them that are cycles given by name. A schema is not looked into
again inside itself, nor below the greatest depth. -/
def checkNodeWithin (entered : List Nat) : (depth : Nat) → Value → Check Node
  | depth, value =>
    if isReference value then (Node.reference <$> checkReference value).within "ref"
    else Check.within "schema" <|
      match depth, value with
      | 0, _ => .refuse .recursion
      | depth + 1, .cycle name content =>
        if entered.contains name then .refuse .recursion
        else checkSchema (checkNodeWithin (name :: entered) depth) (.cycle name content)
      | depth + 1, value => checkSchema (checkNodeWithin entered depth) value

def checkNode (value : Value) : Check Node :=
  checkNodeWithin [] greatestDepth value

/-! ## Parameters and request bodies -/

/-- Data that may be a reference or a model is read as both. Where both fit, the reading with more
fields is taken. Of readings with equally many it is the reference, unless the model alone is
exact. -/
def checkOrReference (model : Text) (check : List (Value × Value) → Check α) (value : Value) :
    Check (OrReference α) :=
  match checkReference value, checkModel model check value with
  | .accepted pointer m exact, .accepted part n exact' =>
    if n > m ∨ (n = m ∧ exact' ∧ !exact) then .accepted (.direct part) n exact'
    else .accepted (.reference pointer) m exact
  | .accepted pointer m exact, .refused _ => .accepted (.reference pointer) m exact
  | .refused _, .accepted part n exact => .accepted (.direct part) n exact
  | .refused problems, .refused more =>
    .refused (problems.map (Problem.within "Reference") ++ more.map (Problem.within model))

def checkParameter (entries : List (Value × Value)) : Check Parameter :=
  Parameter.mk
    <$> requiredField entries ["name"] checkText
    <*> requiredField entries ["in", "in_"] checkText
    <*> optionalField entries ["description"] checkText
    <*> optionalField entries ["required"] checkTruth
    <*> optionalField entries ["deprecated"] checkTruth
    <*> optionalField entries ["schema", "schema_"] checkNode

def checkMediaType (entries : List (Value × Value)) : Check MediaType :=
  MediaType.mk <$> optionalField entries ["schema", "schema_"] checkNode

def checkRequestBody (entries : List (Value × Value)) : Check RequestBody :=
  RequestBody.mk
    <$> optionalField entries ["description"] checkText
    <*> optionalField entries ["content"] (checkMapping (checkModel "MediaType" checkMediaType))
    <*> optionalField entries ["required"] checkTruth

/-! ## Operations and paths -/

def checkParameters : Value → Check (List (OrReference Parameter)) :=
  checkList (checkOrReference "Parameter" checkParameter)

def checkOperation (entries : List (Value × Value)) : Check Operation :=
  Operation.mk
    <$> optionalField entries ["tags"] (checkList checkText)
    <*> optionalField entries ["summary"] checkText
    <*> optionalField entries ["description"] checkText
    <*> optionalField entries ["operationId"] checkText
    <*> optionalField entries ["parameters"] checkParameters
    <*> optionalField entries ["requestBody"] (checkOrReference "RequestBody" checkRequestBody)
    <*> optionalField entries ["deprecated"] checkTruth

/-- The operations of a path item are the mapping under the key `operations`, or else the entries
whose keys are methods. -/
def operationsOf (entries : List (Value × Value)) : Value :=
  match Value.lookup "operations" entries with
  | some operations => operations
  | none => .map (entries.filter fun
    | (.text key, _) => httpMethods.contains key
    | _ => false)

def checkPathItem (entries : List (Value × Value)) : Check PathItem :=
  PathItem.mk
    <$> optionalField entries ["summary"] checkText
    <*> optionalField entries ["description"] checkText
    <*> optionalField entries ["parameters"] checkParameters
    <*> (checkMapping (checkModel "Operation" checkOperation) (operationsOf entries)
      |>.within "operations")

/-! ## Documents -/

def checkComponents (entries : List (Value × Value)) : Check Components :=
  Components.mk
    <$> optionalField entries ["schemas"] (checkMapping checkNode)
    <*> optionalField entries ["parameters"]
      (checkMapping (checkOrReference "Parameter" checkParameter))
    <*> optionalField entries ["requestBodies"]
      (checkMapping (checkOrReference "RequestBody" checkRequestBody))

def checkInfo (entries : List (Value × Value)) : Check Info :=
  Info.mk
    <$> optionalField entries ["title"] checkText
    <*> optionalField entries ["description"] checkText
    <*> optionalField entries ["version"] checkText

def checkDocument : Value → Check Document :=
  checkModel "OpenAPI" fun entries =>
    Document.mk
      <$> optionalField entries ["openapi"] checkText
      <*> optionalField entries ["info"] (checkModel "Info" checkInfo)
      <*> optionalField entries ["paths"] (checkMapping (checkModel "PathItem" checkPathItem))
      <*> optionalField entries ["components"] (checkModel "Components" checkComponents)

/-- A document, or what keeps the data from being one. Data without a version is not looked into
any further. -/
def validate (value : Value) : Except (List Text) Document :=
  match value.opened with
  | .map entries =>
    match Value.lookup "openapi" entries with
    | none | some .null => .error ["OpenAPI version is not defined"]
    | some _ =>
      match checkDocument value with
      | .accepted document _ _ => .ok document
      | .refused problems => .error (problems.map Problem.message)
  | _ => .error ["document is not a JSON object"]

end ApiClient
