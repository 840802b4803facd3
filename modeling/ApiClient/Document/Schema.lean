import ApiClient.Data.Value
import ApiClient.Text.Split

/-! Schemas. A schema node is a reference to a named component or a schema written in place; only
the element schema and the property schemas of the latter hold further nodes. -/

namespace ApiClient

/-- The basic kinds of values that a schema can describe. -/
inductive Kind where
  | array
  | boolean
  | integer
  | null
  | number
  | object
  | string
  deriving DecidableEq, Repr

def Kind.all : List Kind :=
  [.array, .boolean, .integer, .null, .number, .object, .string]

def Kind.name : Kind → Text
  | .array => "array"
  | .boolean => "boolean"
  | .integer => "integer"
  | .null => "null"
  | .number => "number"
  | .object => "object"
  | .string => "string"

def Kind.named? (name : Text) : Option Kind :=
  Kind.all.find? (·.name == name)

/-- What a schema says about its values, apart from their parts. -/
structure Facets where
  title : Option Text := none
  kind : Option Kind := none
  format : Option Text := none
  members : Option (List Value) := none
  required : Option (List Text) := none
  nullable : Option Bool := none
  description : Option Text := none
  default : Option Value := none
  deprecated : Option Bool := none
  deriving Repr, Inhabited

inductive Node where
  | reference (pointer : Text)
  | inline (facets : Facets) (items : Option Node) (properties : Option (List (Text × Node)))
  deriving Repr

/-- The last segment of a pointer names the component. -/
def componentName (pointer : Text) : Text :=
  Text.afterLast (.char '/') pointer

example : componentName "#/components/schemas/Pet" = "Pet" := by decide

end ApiClient
