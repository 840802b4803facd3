import ApiClient.Source.TypeExpression
import ApiClient.Text.Numeral

/-! Declarations for named schemas: a class for an object, an enumeration or a union for a schema
that lists its members, and an alias for everything else that has a type. -/

namespace ApiClient

/-! ## Classes

A class declares its properties twice: as fields, and as the members of the one argument of its
constructor, which takes them apart into local variables and stores them. -/

/-- A default that can stand in the argument list: a text, a number or a truth value. -/
def defaultLiteral : Node → Except Unwritable (Option Text)
  | .inline facets _ _ =>
    match facets.default with
    | some (.text value) => some <$> literal (.text value)
    | some (.int value) => some <$> literal (.int value)
    | some (.real value) => some <$> literal (.real value)
    | some (.bool value) => some <$> literal (.bool value)
    | _ => .ok none
  | .reference _ => .ok none

/-- A property taken out of the argument. Where the variable has another name than the property,
both are given. -/
def bindingText (name : Text) (default : Option Text) : Text :=
  let binding := bindingName name
  let pattern := if binding = name then binding else propertyKey name ++ ": " ++ binding
  match default with
  | none => pattern ++ ","
  | some value => pattern ++ " = " ++ value ++ ","

def assignmentText (name : Text) : Text :=
  memberAccess "this" name ++ " = " ++ bindingName name ++ ";"

def bindingTexts (properties : List (Text × Node)) : Except Unwritable (List Text) :=
  properties.mapM fun (name, node) => do return bindingText name (← defaultLiteral node)

/-- An argument of which every member is optional may be left out. -/
def constructorFallback (properties : List (Text × Node)) : Text :=
  if properties.any fun (_, node) => !isOptional node then "" else " = \x7b\x7d"

def constructorText (fields : Text) (bindings : List Text)
    (properties : List (Text × Node)) : Text :=
  lines [
    "constructor(\x7b",
    indented (lines bindings),
    "\x7d: \x7b",
    indented fields,
    "\x7d" ++ constructorFallback properties ++ ") \x7b",
    indented (lines (properties.map fun (name, _) => assignmentText name)),
    "\x7d"]

def classDeclaration (name : Text) (properties : List (Text × Node)) :
    Except Unwritable Text :=
  if properties.isEmpty then
    .ok ("export class " ++ name ++ " \x7b\n  constructor() \x7b\x7d\n\x7d")
  else do
    let fields ← renderFields none properties
    let bindings ← bindingTexts properties
    return "export class " ++ name ++ " \x7b\n" ++ indented fields ++ "\n\n" ++
      indented (constructorText fields bindings properties) ++ "\n\x7d"

/-! ## Enumerations -/

/-- The name of a member. A name that reads as a number is not allowed, not even in quotes. -/
def memberName (value : Text) : Text :=
  if (value.characters?.bind Text.Numeral.real?).isSome then propertyKey ("_" ++ value)
  else propertyKey value

def memberText (value : Text) : Text :=
  memberName value ++ " = " ++ quoted value ++ ","

def isNull : Value → Bool
  | .null => true
  | _ => false

def memberOf (value : Value) : Except Unwritable Text :=
  match value.asText? with
  | some text => .ok (memberText text)
  | none => .error (.noLiteral .longInteger)

def enumDeclaration (name : Text) (members : List Value) : Except Unwritable Text := do
  let texts ← (members.filter (!isNull ·)).mapM memberOf
  if texts.isEmpty then return "export enum " ++ name ++ " \x7b\x7d"
  else return "export enum " ++ name ++ " \x7b\n" ++ indented (lines texts) ++ "\n\x7d"

/-! ## Aliases -/

def aliasDeclaration (name : Text) (node : Node) : Except Unwritable (Option Text) := do
  match ← typeOf none node with
  | none => return none
  | some type => return some ("export type " ++ name ++ " = " ++ type ++ ";")

/-! ## Declarers

A declarer answers with the declaration of a named node, with nothing where it does not recognise
the node, or with a failure. -/

abbrev Declarer (ε : Type) := Text → Node → Except ε (Option Text)

/-- A declarer for the schemas written in place whose facets pass a test. -/
def declarerWhere (recognises : Facets → Bool)
    (declare : Text → Facets → Option Node → Option (List (Text × Node)) →
      Except ε (Option Text)) : Declarer ε
  | _, .reference _ => .ok none
  | name, .inline facets items properties =>
    if recognises facets then declare name facets items properties else .ok none

def declareObject : Declarer Unwritable :=
  declarerWhere (·.kind == some .object) fun name _ _ properties =>
    some <$> classDeclaration name (properties.getD [])

def declareEnum : Declarer Unwritable :=
  declarerWhere (·.members.isSome) fun name facets items properties =>
    match facets.kind with
    | some .string => some <$> enumDeclaration name (facets.members.getD [])
    | some .number | some .integer => aliasDeclaration name (.inline facets items properties)
    | _ => .ok none

def declareAlias : Declarer Unwritable :=
  declarerWhere (fun facets => facets.kind.isSome && facets.kind != some .object)
    fun name facets items properties => aliasDeclaration name (.inline facets items properties)

/-- Objects come first, so that none of them becomes an alias. -/
def defaultDeclarers : List (Declarer Unwritable) :=
  [declareObject, declareEnum, declareAlias]

end ApiClient
