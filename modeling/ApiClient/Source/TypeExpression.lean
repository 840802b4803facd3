import ApiClient.Document.Schema
import ApiClient.Source.Comment
import ApiClient.Source.Literal

/-! Type expressions for schema nodes. A reference is written by name and never followed, so cycles
among components do no harm. -/

namespace ApiClient

/-- The type of a value about which nothing is known. -/
def anyType : Text := "any"

/-- A name within a namespace, if there is one. -/
def qualified (space : Option Text) (name : Text) : Text :=
  match space with
  | none | some [] => name
  | some space => space ++ "." ++ name

def basicType (kind : Kind) (format : Option Text) : Text :=
  match kind with
  | .string => if format = some "binary" then "Blob" else "string"
  | .boolean => "boolean"
  | .integer | .number => "number"
  | .null => "null"
  | .array => anyType ++ "[]"
  | .object => anyType

/-! ## Enumerations -/

/-- In an enumeration of texts everything but null counts as the text it would be. -/
def memberLiteral (kind : Kind) (member : Value) : Except Unwritable Text :=
  match kind, member with
  | .string, .null => .ok "null"
  | .string, member => textLiteral member
  | _, member => literal member

def literalUnion (kind : Kind) (members : List Value) : Except Unwritable Text :=
  if members.isEmpty then .ok "never"
  else (joined " | ") <$> members.mapM (memberLiteral kind)

/-! ## Arrays and objects -/

/-- The type of arrays of an element type. A union is put in parentheses. -/
def arrayOf (element : Text) : Text :=
  if Text.occurs " | " element && element.head? != some (.char '{') then
    "(" ++ element ++ ")[]"
  else element ++ "[]"

/-- A property may be left out unless its schema says that it is never null. -/
def isOptional : Node → Bool
  | .inline facets _ _ => facets.nullable != some false
  | .reference _ => true

def Node.description : Node → Option Text
  | .inline facets _ _ => facets.description
  | .reference _ => none

/-- The type of a property, which is never left empty. -/
def fieldType : Option Text → Text
  | none | some [] => anyType
  | some type => type

def fieldText (name : Text) (node : Node) (type : Option Text) : Text :=
  let field := propertyKey name ++ (if isOptional node then "?" else "") ++ ": " ++
    fieldType type ++ ";"
  match node.description with
  | none | some [] => field
  | some description => docComment (some description) descriptionTag [] ++ "\n" ++ field

/-- The kinds whose enumerations are written as unions. -/
def Kind.isEnumerable : Kind → Bool
  | .string | .integer | .number => true
  | _ => false

mutual

/-- The type of a node. A node without a kind, or an object of unknown properties, has none. -/
def typeOf (space : Option Text) : Node → Except Unwritable (Option Text)
  | .reference pointer => .ok (some (qualified space (componentName pointer)))
  | .inline facets items properties =>
    match facets.kind, facets.members with
    | none, _ => .ok none
    | some .array, _ => do return some (arrayOf ((← elementType space items).getD anyType))
    | some .object, _ => objectType space properties
    | some kind, some members =>
      if kind.isEnumerable then some <$> literalUnion kind members
      else .ok (some (basicType kind facets.format))
    | some kind, none => .ok (some (basicType kind facets.format))

def elementType (space : Option Text) : Option Node → Except Unwritable (Option Text)
  | none => .ok none
  | some items => typeOf space items

def objectType (space : Option Text) :
    Option (List (Text × Node)) → Except Unwritable (Option Text)
  | none => .ok none
  | some [] => .ok (some "\x7b\x7d")
  | some properties => do
    let fields ← fieldTexts space properties
    return some ("\x7b\n" ++ indented (lines fields) ++ "\n\x7d")

def fieldTexts (space : Option Text) :
    List (Text × Node) → Except Unwritable (List Text)
  | [] => .ok []
  | (name, node) :: rest => do
    let type ← typeOf space node
    return fieldText name node type :: (← fieldTexts space rest)

end

/-- The properties as the fields of a class or an object type, one to a line. -/
def renderFields (space : Option Text) (properties : List (Text × Node)) :
    Except Unwritable Text :=
  lines <$> fieldTexts space properties

end ApiClient
