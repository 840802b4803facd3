import ApiClient.Api.Method
import ApiClient.Log
import ApiClient.Source.Identifier
import ApiClient.Text.Uppercase

/-! The module of the methods: a class for every tag, with a method for every operation that has
the tag. Classes and methods stand in the order in which they first occur. A tag whose class would
hide an imported name gets a longer class name. -/

namespace ApiClient

/-- A class as it grows: the tags that lead to it, and its methods by operation id. -/
structure ApiClass where
  name : Text
  tags : List Text := []
  methods : List (Text × Text) := []
  deriving DecidableEq, Repr

/-- The name of the class for a tag, in a module that imports a namespace. -/
def classNameFor (space tag : Text) : Text :=
  let name := className tag
  if name = "Request" ∨ name = space then name ++ "Api" else name

/-! ## Gathering methods -/

/-- Give an operation id a method: in place where there is one, at the end where there is none. -/
def putMethod (operationId text : Text) : List (Text × Text) → List (Text × Text)
  | [] => [(operationId, text)]
  | (other, old) :: rest =>
    if other = operationId then (other, text) :: rest
    else (other, old) :: putMethod operationId text rest

/-- Two tags with one class are worth a warning, the first time that the later tag is met. -/
def ApiClass.mergeWarning (apiClass : ApiClass) (tag : Text) : List LogEntry :=
  match apiClass.tags with
  | [] => []
  | first :: _ =>
    if apiClass.tags.contains tag then []
    else [⟨.warning, "Tags " ++ shown first ++ " and " ++ shown tag ++ " both map to class " ++
      apiClass.name ++ ", merging their operations"⟩]

/-- A method that takes the place of another is worth a warning. -/
def ApiClass.duplicateWarning (apiClass : ApiClass) (endpoint : Endpoint) (tag : Text) :
    List LogEntry :=
  if apiClass.methods.any (·.1 == endpoint.operationId) then
    [⟨.warning, "Duplicate operationId " ++ shown endpoint.operationId ++ " in tag " ++ shown tag ++
      ", keeping " ++ Text.uppercased endpoint.method ++ " " ++ endpoint.path⟩]
  else []

def ApiClass.withMethod (apiClass : ApiClass) (endpoint : Endpoint) (tag : Text) : ApiClass :=
  { apiClass with
    tags := if apiClass.tags.contains tag then apiClass.tags else apiClass.tags ++ [tag]
    methods := putMethod endpoint.operationId endpoint.methodText apiClass.methods }

/-- Add the method of an endpoint to the class of a name, which is a new one where there is none of
that name yet. -/
def addMethod (name : Text) (endpoint : Endpoint) (tag : Text) :
    List ApiClass → List ApiClass × List LogEntry
  | [] =>
    let apiClass := ApiClass.mk name [] []
    ([apiClass.withMethod endpoint tag], [])
  | apiClass :: rest =>
    if apiClass.name = name then
      (apiClass.withMethod endpoint tag :: rest,
        apiClass.mergeWarning tag ++ apiClass.duplicateWarning endpoint tag)
    else
      let (rest, log) := addMethod name endpoint tag rest
      (apiClass :: rest, log)

/-- The tags of the endpoints, each with its endpoint, in order. -/
def taggings (endpoints : List Endpoint) : List (Endpoint × Text) :=
  endpoints.flatMap fun endpoint => endpoint.tags.map fun tag => (endpoint, tag)

def gather (space : Text) :
    List (Endpoint × Text) → List ApiClass → List ApiClass × List LogEntry
  | [], classes => (classes, [])
  | (endpoint, tag) :: rest, classes =>
    let (classes, log) := addMethod (classNameFor space tag) endpoint tag classes
    let (classes, later) := gather space rest classes
    (classes, log ++ later)

/-! ## Text -/

structure ApiImports where
  space : Text := "Models"
  models : Text := "./models"
  request : Text := "./request"

def ApiImports.text (imports : ApiImports) : Text :=
  "import \x7b Request \x7d from " ++ quoted imports.request ++ ";\nimport * as " ++
    imports.space ++ " from " ++ quoted imports.models ++ ";"

def ApiClass.text (apiClass : ApiClass) : Text :=
  "export class " ++ apiClass.name ++ " \x7b\n" ++
    indented (joined "\n\n" (apiClass.methods.map (·.2))) ++ "\n\x7d"

def renderApi (imports : ApiImports) (endpoints : List Endpoint) : Logged ε Text :=
  let (classes, log) := gather imports.space (taggings endpoints) []
  ⟨log, .ok (joined "\n\n" (imports.text :: classes.map ApiClass.text) ++ "\n")⟩

end ApiClient
