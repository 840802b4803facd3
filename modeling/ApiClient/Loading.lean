import ApiClient.Data.Yaml.Reader
import ApiClient.Document.Validation
import ApiClient.Fault
import ApiClient.Network.Web
import ApiClient.Network.WebAddress

/-! Loading documents from files and from the web. -/

namespace ApiClient

/-! ## Data in files -/

/-- Line breaks as a text file may have them become line feeds. -/
def withLineFeeds : List Char → List Char
  | [] => []
  | '\r' :: '\n' :: rest => '\n' :: withLineFeeds rest
  | '\r' :: rest => '\n' :: withLineFeeds rest
  | c :: rest => c :: withLineFeeds rest

/-- The text of a file. -/
def FileTree.readText (tree : FileTree) (path : Path) : Except Cause (List Char) := do
  let octets ← (tree.read path).mapError Cause.access
  let characters ← (Text.Utf8.decode octets).mapError Cause.encoding
  return withLineFeeds characters

/-- The encoding of text with a name. -/
def charsetNamed (name : Text) : Except Cause Text.Charset :=
  let characters := name.filterMap (·.character?)
  if characters.contains '\x00' then .error (.otherEncoding .badName)
  else
    match Text.Charset.named? characters with
    | none => .error (.unknownEncoding name)
    | some charset =>
      match charset.characters [] with
      | .error .notText | .error .notOctets => .error (.notTextEncoding name)
      | _ => .ok charset

/-- The text of a file in an encoding. -/
def FileTree.readTextIn (tree : FileTree) (charset : Text.Charset) (path : Path) :
    Except Cause (List Char) := do
  if charset.name = Text.Charset.utf8.name then tree.readText path
  else
    let octets ← (tree.read path).mapError Cause.access
    let characters ← (charset.read octets).mapError Cause.otherEncoding
    return withLineFeeds characters

inductive DataFormat where
  | json
  | yaml
  deriving DecidableEq, Repr

def DataFormat.read : DataFormat → List Char → Except Cause Value
  | .json, characters => (Json.read characters).mapError Cause.json
  | .yaml, characters => (Yaml.read characters).mapError Cause.yaml

/-- Whether the suffix of a path is one of several, in any letter case. -/
def Path.hasSuffix (path : Path) (suffixes : List Text) : Bool :=
  suffixes.contains (Text.lowercased path.suffix)

def DataFormat.ofPath (path : Path) : DataFormat :=
  if path.hasSuffix [".yaml", ".yml"] then .yaml else .json

/-- A response is taken for YAML if its content type or the address says so. -/
def DataFormat.ofResponse (source : Text) (response : Network.Response) : DataFormat :=
  let endings : List Text := [".yaml", ".yml"]
  if Text.occurs "yaml".toList response.contentType.toList ∨
      endings.any (·.isSuffixOf source) then .yaml
  else .json

/-! ## Documents -/

/-- What documents are loaded from: the web, and files as they are seen from a base. -/
structure Origins where
  tree : FileTree
  base : Path
  web : Network.Web := Network.Web.unreachable
  redirects : Network.RedirectPolicy := .follow

/-- The data in a file. -/
def Origins.readFile (origins : Origins) (source : Text) : Logged Cause Value := do
  let path := origins.base.join (Path.ofText source)
  if ← Logged.ofExcept ((origins.tree.contains path).mapError Cause.access) then
    Logged.debug ("Reading " ++ path.text)
    Logged.ofExcept (origins.tree.readText path >>= (DataFormat.ofPath path).read)
  else Logged.fail (.noFile path.text)

/-- A web address, whose characters are escaped one by one. -/
def addressOf (source : Text) : Except Cause String :=
  match source.find? (·.isSurrogate) with
  | some half => .error (.unencodable ⟨half, 0, 1⟩)
  | none => .ok (String.ofList (source.filterMap (·.character?)))

/-- The data that a web address leads to. -/
def Origins.fetch (origins : Origins) (source : Text) : Logged Cause Value := do
  Logged.debug ("Fetching " ++ source)
  let address ← Logged.ofExcept (addressOf source)
  let response ← Logged.ofExcept
    ((Network.fetch origins.web origins.redirects address).mapError Cause.exchange)
  let characters ← Logged.ofExcept (response.text.mapError (.exchange <| .notText ·))
  Logged.ofExcept ((DataFormat.ofResponse source response).read characters)

def Origins.data (origins : Origins) (source : Text) : Logged Cause Value :=
  if Network.isWebAddress source then origins.fetch source else origins.readFile source

/-- The document in data from a source. -/
def validated (source : Text) (data : Value) : Except Fault Document :=
  (validate data).mapError (.validation source)

/-- The document at a source. -/
def loadDocument (origins : Origins) (source : Text) : Logged Failure Document := do
  let data ← (origins.data source).mapError fun cause =>
    Failure.fault (.loading source (some cause))
  Logged.ofExcept ((validated source data).mapError Failure.fault)

end ApiClient
