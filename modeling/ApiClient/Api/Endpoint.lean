import ApiClient.Document.Model

/-! Operations reduced to what the methods that request them need. -/

namespace ApiClient

/-- Where the value of a parameter travels. Only the first three places take part in a request. -/
inductive Place where
  | query
  | path
  | header
  | other (name : Text)
  deriving DecidableEq, Repr

def Place.named (name : Text) : Place :=
  if name = "query" then .query
  else if name = "path" then .path
  else if name = "header" then .header
  else .other name

def Place.name : Place → Text
  | .query => "query"
  | .path => "path"
  | .header => "header"
  | .other name => name

/-- A parameter with the type its values have in generated code. -/
structure Argument where
  name : Text
  place : Place
  required : Bool
  type : Text
  description : Option Text := none
  deriving DecidableEq, Repr

structure Endpoint where
  operationId : Text
  method : Text
  path : Text
  tags : List Text
  arguments : List Argument := []
  bodyType : Option Text := none
  contentType : Option Text := none
  summary : Option Text := none
  deprecated : Bool := false
  deriving DecidableEq, Repr

namespace Endpoint

def argumentsIn (endpoint : Endpoint) (place : Place) : List Argument :=
  endpoint.arguments.filter (·.place == place)

def takesInput (endpoint : Endpoint) : Bool :=
  !endpoint.arguments.isEmpty || endpoint.bodyType.isSome

end Endpoint

end ApiClient
