import ApiClient.Api.Endpoint
import ApiClient.Source.Comment
import ApiClient.Source.Literal

/-! The method that builds the request for an endpoint. Its one argument has a group for every kind
of input that the endpoint takes: the query, the body, the path and the headers. The same groups
are used in its statements. -/

namespace ApiClient

/-! ## Groups of input -/

inductive GroupContent where
  | whole (type : Text)
  | members (arguments : List Argument)
  deriving DecidableEq, Repr

structure InputGroup where
  name : Text
  required : Bool
  content : GroupContent
  deriving DecidableEq, Repr

/-- A name in an object type, marked where it may be left out. -/
def memberNamed (name : Text) (required : Bool) : Text :=
  if required then name else name ++ "?"

namespace InputGroup

def memberText (argument : Argument) : Text :=
  memberNamed (propertyKey argument.name) argument.required ++ ": " ++ argument.type

/-- The type of a group on one line. -/
def inlineType (group : InputGroup) : Text :=
  match group.content with
  | .whole type => type
  | .members arguments => "\x7b " ++ joined "; " (arguments.map memberText) ++ " \x7d"

/-- The type of a group with one line for each member. -/
def blockType (group : InputGroup) : Text :=
  match group.content with
  | .whole type => type
  | .members arguments =>
    "\x7b\n" ++ indented (lines (arguments.map (memberText · ++ ";"))) ++ "\n\x7d"

end InputGroup

namespace Endpoint

/-- Arguments that travel in one place, if there are any. A group that is optional as a whole may be
left out when all of its members may. -/
def placeGroup (endpoint : Endpoint) (place : Place) (isOptional : Bool) : List InputGroup :=
  match endpoint.argumentsIn place with
  | [] => []
  | arguments =>
    [⟨place.name, !isOptional || arguments.any (·.required), .members arguments⟩]

def bodyGroup (endpoint : Endpoint) : List InputGroup :=
  endpoint.bodyType.toList.map fun type => ⟨"body", true, .whole type⟩

def inputGroups (endpoint : Endpoint) : List InputGroup :=
  endpoint.placeGroup .query true ++ endpoint.bodyGroup ++ endpoint.placeGroup .path false ++
    endpoint.placeGroup .header true

/-! ## Signature -/

/-- A signature longer than this has one line for each group. -/
def greatestInlineWidth : Nat := 100

/-- What the whole argument is when it is left out, which it may be if no group is required. -/
def argumentFallback (groups : List InputGroup) : Text :=
  if groups.any (·.required) then "" else " = \x7b\x7d"

def inlineSignature (name : Text) (groups : List InputGroup) : Text :=
  let members := groups.map fun group => memberNamed group.name group.required ++ ": " ++
    group.inlineType
  "static " ++ name ++ "(\x7b " ++ joined ", " (groups.map (·.name)) ++ " \x7d: \x7b " ++
    joined "; " members ++ " \x7d" ++ argumentFallback groups ++ ")"

def blockSignature (name : Text) (groups : List InputGroup) : Text :=
  let members := groups.map fun group => memberNamed group.name group.required ++ ": " ++
    group.blockType ++ ";"
  "static " ++ name ++ "(\x7b\n" ++ indented (lines (groups.map (·.name ++ ","))) ++
    "\n\x7d: \x7b\n" ++ indented (lines members) ++ "\n\x7d" ++ argumentFallback groups ++ ")"

def fitsInline (signature : Text) : Bool :=
  !signature.contains '\n' && signature.length ≤ greatestInlineWidth

def signature (endpoint : Endpoint) : Text :=
  if endpoint.takesInput then
    let groups := endpoint.inputGroups
    let inline := inlineSignature endpoint.operationId groups
    if fitsInline inline then inline else blockSignature endpoint.operationId groups
  else "static " ++ endpoint.operationId ++ "()"

/-! ## Address

Where no argument travels in the path, the address is a plain literal. Otherwise it is a template,
in which every placeholder gives way to the value of its argument. -/

/-- The text of a template that stands for a given text. -/
def templateText (text : Text) : Text :=
  let escape (c : CodePoint) : Text := if c = '\\' ∨ c = '\x60' then ['\\', c] else [c]
  Text.replaceAll (.char '$') "\x7b" "\\$\x7b" (text.flatMap escape)

def substituted (url : Text) (argument : Argument) : Text :=
  Text.replaceAll (.char '\x7b') (argument.name ++ "\x7d")
    ("$\x7b" ++ memberAccess "path" argument.name ++ "\x7d") url

/-- The character on either side of a template. -/
def templateMark : Text := "\x60"

def urlExpression (endpoint : Endpoint) : Text :=
  match endpoint.argumentsIn .path with
  | [] => quoted endpoint.path
  | arguments =>
    templateMark ++
      arguments.foldl substituted (templateText endpoint.path) ++
      templateMark

/-! ## Statements -/

def requestOptions (endpoint : Endpoint) : List Text :=
  let address : List Text :=
    ["url: " ++ endpoint.urlExpression ++ ",", "method: " ++ quoted endpoint.method ++ ","]
  let query : List Text :=
    if (endpoint.argumentsIn .query).isEmpty then [] else ["params: query,"]
  let body : List Text := if endpoint.bodyType.isSome then ["data: body,"] else []
  address ++ query ++ body

/-- The value of a header. Where all headers are optional, there may be nothing to take it from. -/
def headerAccess (name : Text) (isOptional : Bool) : Text :=
  if !isOptional then memberAccess "header" name
  else if isIdentifier name then "header?." ++ name
  else "header?.[" ++ quoted name ++ "]"

/-- The entries of the header object, by the keys they are given. -/
def headerEntries (endpoint : Endpoint) : List (Text × Text) :=
  let arguments := endpoint.argumentsIn .header
  let isOptional := !arguments.any (·.required)
  let contentType : List (Text × Text) :=
    endpoint.contentType.toList.map fun type => ("Content-Type", quoted type)
  contentType ++
    arguments.map fun argument => (argument.name, headerAccess argument.name isOptional)

/-- A call whose argument is an object. -/
def objectCall (head : Text) (entries : List Text) : List Text :=
  [head ++ "(\x7b", indented (lines entries), "\x7d);"]

def statements (endpoint : Endpoint) : List Text :=
  let headers := endpoint.headerEntries.map fun (key, value) => quoted key ++ ": " ++ value ++ ","
  objectCall "const request = new Request" endpoint.requestOptions ++
    (if headers.isEmpty then [] else objectCall "request.headers" headers) ++
    [("return request;" : Text)]

/-! ## Method -/

/-- The comment above a method that has a summary or is deprecated. -/
def comment (endpoint : Endpoint) : Option Text :=
  match endpoint.summary, endpoint.deprecated with
  | none, false | some [], false => none
  | summary, deprecated =>
    some (docComment summary descriptionTag (if deprecated then ["@deprecated"] else []))

def methodText (endpoint : Endpoint) : Text :=
  let method := endpoint.signature ++ " \x7b\n" ++ indented (lines endpoint.statements) ++ "\n\x7d"
  match endpoint.comment with
  | none => method
  | some comment => comment ++ "\n" ++ method

end Endpoint

end ApiClient
