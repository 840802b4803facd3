import ApiClient.Data.Display
import ApiClient.Data.Json.Writer
import ApiClient.Source.Identifier

/-! Literals and property keys of generated code. -/

namespace ApiClient

/-- The reason why code cannot be written: it would need a literal for a value that has none. -/
inductive Unwritable where
  | noLiteral (obstacle : Json.Obstacle)
  deriving DecidableEq, Repr

def Unwritable.message : Unwritable → Text
  | .noLiteral obstacle => obstacle.message

/-- Texts are quoted, every other value is written as JSON. -/
def literal : Value → Except Unwritable Text
  | .text value => .ok (quoted value)
  | value => (Json.text value).mapError .noLiteral

/-- The text that a value would be, as a literal. -/
def textLiteral (value : Value) : Except Unwritable Text :=
  match value.asText? with
  | some text => .ok (quoted text)
  | none => .error (.noLiteral .longInteger)

/-- A key of an object type, an object literal or a class. -/
def propertyKey (name : Text) : Text :=
  if isIdentifier name then name else quoted name

def memberAccess (target name : Text) : Text :=
  if isIdentifier name then target ++ "." ++ name else target ++ "[" ++ quoted name ++ "]"

end ApiClient
