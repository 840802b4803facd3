import ApiClient.Api.Endpoint
import ApiClient.Log
import ApiClient.Source.TypeExpression

/-! The endpoints of a document. Every operation of every path becomes one endpoint, in the order of
the document, unless one of them lacks something that its method needs: then the first such
operation is the result. -/

namespace ApiClient

/-! ## References to components -/

inductive ReferenceFault where
  | misplaced (expected : Text)
  | unknown
  | circular
  deriving DecidableEq, Repr

def ReferenceFault.message : ReferenceFault → Text
  | .misplaced expected => "expected a reference into " ++ expected
  | .unknown => "component not found"
  | .circular => "circular reference"

/-- Named components of one kind, and the pointer under which the document keeps them. -/
structure Shelf (α : Type) where
  root : Text
  parts : List (Text × OrReference α)

def findNamed (name : Text) : List (Text × α) → Option α
  | [] => none
  | (other, part) :: rest => if other = name then some part else findNamed name rest

/-- One step along a reference: the pointer must lead into the shelf, and its last segment must name
a component there. -/
def Shelf.lookup (shelf : Shelf α) (pointer : Text) : Except ReferenceFault (OrReference α) :=
  if shelf.root.isPrefixOf pointer then
    match findNamed (componentName pointer) shelf.parts with
    | some part => .ok part
    | none => .error .unknown
  else .error (.misplaced shelf.root)

/-- A failed step with the pointer at which it failed. -/
structure BrokenReference where
  pointer : Text
  fault : ReferenceFault
  deriving DecidableEq, Repr

/-- Follow references until a part given in place. A pointer met before closes a circle. Every step
but the last leads to another reference of the shelf, so the walk ends within one step more than
there are parts, and a step for the node at which it starts. -/
def Shelf.follow (shelf : Shelf α) :
    (fuel : Nat) → (seen : List Text) → OrReference α → Except BrokenReference α
  | _, _, .direct part => .ok part
  | 0, _, .reference pointer => .error ⟨pointer, .circular⟩
  | fuel + 1, seen, .reference pointer =>
    if seen.contains pointer then .error ⟨pointer, .circular⟩
    else
      match shelf.lookup pointer with
      | .error fault => .error ⟨pointer, fault⟩
      | .ok next => shelf.follow fuel (pointer :: seen) next

def Shelf.resolve (shelf : Shelf α) (node : OrReference α) : Except BrokenReference α :=
  shelf.follow (shelf.parts.length + 2) [] node

def Document.parameterShelf (document : Document) : Shelf Parameter :=
  ⟨"#/components/parameters/", (document.components.bind (·.parameters)).getD []⟩

def Document.requestBodyShelf (document : Document) : Shelf RequestBody :=
  ⟨"#/components/requestBodies/", (document.components.bind (·.requestBodies)).getD []⟩

/-! ## Faults of operations -/

inductive OperationFault where
  | noOperationId
  | noTags
  | badOperationId (operationId : Text)
  deriving DecidableEq, Repr

def OperationFault.message : OperationFault → Text
  | .noOperationId =>
    "operationId is not defined, see https://swagger.io/specification/#operation-object"
  | .noTags =>
    "operation's tags are not defined, see https://swagger.io/specification/#operation-object"
  | .badOperationId operationId =>
    "operationId " ++ shown operationId ++ " is not a valid method name"

inductive CollectionFault where
  | operation (path method : Text) (fault : OperationFault) (operationId : Option Text)
  | reference (broken : BrokenReference)
  | unwritable (reason : Unwritable)
  deriving DecidableEq, Repr

/-! ## Parameters -/

def Parameter.key (parameter : Parameter) : Text × Text :=
  (parameter.name, parameter.location)

/-- The parameters of a path after those of an operation, except where the operation, or an earlier
parameter of the path, has one of the same name and location. -/
def mergeParameters (own inherited : List Parameter) : List Parameter :=
  inherited.foldl (fun merged parameter =>
    if merged.any (·.key == parameter.key) then merged else merged ++ [parameter]) own

def resolveAll (shelf : Shelf α) (nodes : List (OrReference α)) :
    Except BrokenReference (List α) :=
  nodes.mapM shelf.resolve

def Parameter.isNullabilityGiven (parameter : Parameter) : Bool :=
  match parameter.schema with
  | some (.inline facets _ _) => facets.nullable.isSome
  | _ => false

/-- A parameter takes part in requests if it travels in one of the known places and its schema has a
type. -/
def Parameter.argument (space : Option Text) (parameter : Parameter) :
    Logged Unwritable (Option Argument) :=
  match Place.named parameter.location, parameter.schema with
  | .other location, _ => do
    Logged.debug ("Skipping " ++ location ++ " parameter " ++ shown parameter.name)
    return none
  | _, none => return none
  | place, some schema => do
    match ← Logged.ofExcept (typeOf space schema) with
    | none => return none
    | some type =>
      return some {
        name := parameter.name
        place
        required := parameter.required == some true || parameter.isNullabilityGiven
        type
        description := parameter.description }

def argumentsOf (space : Option Text) : List Parameter → Logged Unwritable (List Argument)
  | [] => return []
  | parameter :: rest => do
    let argument ← parameter.argument space
    let others ← argumentsOf space rest
    return argument.toList ++ others

/-! ## Request bodies -/

def defaultContentType : Text := "application/json"

/-- The content type of a body and the type of its data: those declared first. -/
def RequestBody.content? (space : Option Text) (body : RequestBody) :
    Except Unwritable (Text × Option Text) :=
  match body.content with
  | none | some [] => .ok (defaultContentType, none)
  | some ((contentType, media) :: _) =>
    match media.schema with
    | none => .ok (contentType, none)
    | some schema => do return (contentType, ← typeOf space schema)

/-! ## Operations -/

/-- What an operation must have, checked in this order: an operation id, a tag, and an operation id
that is an identifier. -/
def Operation.checked (path method : Text) (operation : Operation) :
    Except CollectionFault (Text × List Text) :=
  match operation.operationId, operation.tags with
  | none, _ | some [], _ => .error (.operation path method .noOperationId none)
  | some operationId, none | some operationId, some [] =>
    .error (.operation path method .noTags (some operationId))
  | some operationId, some tags =>
    if isIdentifier operationId then .ok (operationId, tags)
    else .error (.operation path method (.badOperationId operationId) (some operationId))

/-- The first of two texts that says something, or the second where neither does. -/
def firstNonempty (first second : Option Text) : Option Text :=
  match first with
  | none | some [] => second
  | first => first

def Operation.endpoint (document : Document) (space : Option Text) (path method : Text)
    (inherited : List (OrReference Parameter)) (operation : Operation) :
    Logged CollectionFault Endpoint := do
  let ⟨operationId, tags⟩ ← Logged.ofExcept (operation.checked path method)
  let resolve := fun nodes =>
    Logged.ofExcept ((resolveAll document.parameterShelf nodes).mapError CollectionFault.reference)
  let own ← resolve (operation.parameters.getD [])
  let inherited ← resolve inherited
  let arguments ←
    (argumentsOf space (mergeParameters own inherited)).mapError CollectionFault.unwritable
  let body ← Logged.ofExcept
    ((operation.requestBody.mapM document.requestBodyShelf.resolve).mapError
      CollectionFault.reference)
  let content ← Logged.ofExcept
    ((body.mapM (RequestBody.content? space)).mapError CollectionFault.unwritable)
  return {
    operationId
    method
    path
    tags
    arguments
    bodyType := content.bind (·.2)
    contentType := content.map (·.1)
    summary := firstNonempty operation.summary operation.description
    deprecated := operation.deprecated == some true }

def PathItem.endpoints (document : Document) (space : Option Text) (path : Text)
    (item : PathItem) : List (Text × Operation) → Logged CollectionFault (List Endpoint)
  | [] => return []
  | (method, operation) :: rest => do
    let endpoint ←
      operation.endpoint document space path method (item.parameters.getD [])
    return endpoint :: (← item.endpoints document space path rest)

def endpointsOf (document : Document) (space : Option Text) :
    List (Text × PathItem) → Logged CollectionFault (List Endpoint)
  | [] => return []
  | (path, item) :: rest => do
    let endpoints ← item.endpoints document space path item.operations
    return endpoints ++ (← endpointsOf document space rest)

def Document.endpoints (document : Document) (space : Option Text) :
    Logged CollectionFault (List Endpoint) :=
  endpointsOf document space (document.paths.getD [])

end ApiClient
