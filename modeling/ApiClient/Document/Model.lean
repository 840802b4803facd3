import ApiClient.Document.Schema

/-! The parts of an interface description from which code is generated. Everything is optional
except what identifies a parameter. Named parts keep the order in which the document declares
them. -/

namespace ApiClient

/-- A part given in place, or by reference to a component. -/
inductive OrReference (α : Type) where
  | reference (pointer : Text)
  | direct (part : α)
  deriving Repr

structure Info where
  title : Option Text := none
  description : Option Text := none
  version : Option Text := none
  deriving Repr

structure Parameter where
  name : Text
  location : Text
  description : Option Text := none
  required : Option Bool := none
  deprecated : Option Bool := none
  schema : Option Node := none
  deriving Repr

structure MediaType where
  schema : Option Node := none
  deriving Repr

structure RequestBody where
  description : Option Text := none
  content : Option (List (Text × MediaType)) := none
  required : Option Bool := none
  deriving Repr

structure Operation where
  tags : Option (List Text) := none
  summary : Option Text := none
  description : Option Text := none
  operationId : Option Text := none
  parameters : Option (List (OrReference Parameter)) := none
  requestBody : Option (OrReference RequestBody) := none
  deprecated : Option Bool := none
  deriving Repr

/-- The operations of one path, by method. -/
structure PathItem where
  summary : Option Text := none
  description : Option Text := none
  parameters : Option (List (OrReference Parameter)) := none
  operations : List (Text × Operation) := []
  deriving Repr

structure Components where
  schemas : Option (List (Text × Node)) := none
  parameters : Option (List (Text × OrReference Parameter)) := none
  requestBodies : Option (List (Text × OrReference RequestBody)) := none
  deriving Repr

structure Document where
  openapi : Option Text := none
  info : Option Info := none
  paths : Option (List (Text × PathItem)) := none
  components : Option Components := none
  deriving Repr

/-- The methods that a path item can hold operations for. -/
def httpMethods : List Text :=
  ["get", "put", "post", "delete", "options", "head", "patch", "trace"]

end ApiClient
