import ApiClient.CommandLine.Arguments
import ApiClient.Loading
import ApiClient.Settings
import ApiClient.Settings.VariableFile

/-! Searching for settings beyond the data that gives them. They can be among arguments, which count
more than the data, and in the environment, in files that list variables and in files of their own,
each of which counts less than the one before it. The data itself tells how to search, by parameters
that stand among the settings. -/

namespace ApiClient

namespace Settings

def names : List Text :=
  ["source", "output", "models_file", "api_file", "request_file", "http_config_file",
    "models_namespace"]

/-- How to search. Each setting has a variable, whose name is that of the setting with something
before it, and a file of that name can hold it too. -/
structure Search where
  leading : Text := "APISTUB_"
  isExact : Bool := false
  skipsEmpty : Bool := false
  nullWord : Option Text := none
  encoding : Option Value := none
  files : List Text := []
  directories : List Text := []
  deriving Repr

/-! ## Parameters -/

def parameterNames : List Text := [
  "_case_sensitive", "_nested_model_default_partial_update", "_env_prefix", "_env_prefix_target",
  "_env_file", "_env_file_encoding", "_env_ignore_empty", "_env_nested_delimiter",
  "_env_nested_max_split", "_env_parse_none_str", "_env_parse_enums", "_cli_prog_name",
  "_cli_parse_args", "_cli_settings_source", "_cli_parse_none_str", "_cli_hide_none_type",
  "_cli_avoid_json", "_cli_enforce_required", "_cli_use_class_docs_for_groups",
  "_cli_exit_on_error", "_cli_prefix", "_cli_flag_prefix_char", "_cli_implicit_flags",
  "_cli_ignore_unknown_args", "_cli_kebab_case", "_cli_shortcuts", "_secrets_dir",
  "_build_sources"]

def isParameter : Value × Value → Bool
  | (.text name, _) => parameterNames.contains name
  | _ => false

/-- A parameter that is null is not given. -/
def parameter? (entries : List (Value × Value)) (name : Text) : Option Value :=
  match Value.lookup name entries with
  | some .null => none
  | found => found

def isWanted (entries : List (Value × Value)) (name : Text) : Bool :=
  (parameter? entries name).any (!·.isBlank)

def wordOf : Value → Option Text
  | .text word => some word
  | _ => none

/-- The members of a collection, of which a text is one too. -/
def membersOf (value : Value) : Except Failure (List Value) :=
  match value.opened with
  | .list items | .tuple items | .set items => .ok items
  | .map entries => .ok (entries.map (·.1))
  | .octets octets => .ok (octets.map fun octet => .int octet.toNat)
  | .text text => .ok (text.map fun c => .text [c])
  | value => .error (.misfit (.notIterable value.fullKindName))

/-- One path, or several. -/
def pathsOf : Option Value → Except Failure (List Text)
  | none => .ok []
  | some (.text path) => .ok [path]
  | some value => do
    (← membersOf value).mapM fun
      | .text path => .ok path
      | other => .error (.misfit (.notPath other.fullKindName))

/-- How often names may be cut is a number, less one in the end. -/
def checkCuts : Option Value → Except Failure Unit
  | some (.int _) | some (.real _) | some (.bool _) | none => .ok ()
  | some value =>
    if value.isBlank then .ok () else .error (.misfit (.notReducible value.fullKindName))

/-- What stands before the name of a setting has a size. -/
def checkSize : Option Value → Except Failure Unit
  | none => .ok ()
  | some value =>
    match membersOf value with
    | .ok _ => .ok ()
    | .error _ => .error (.misfit (.notSized value.fullKindName))

/-- What has a size, and is no text, cannot stand before a name. -/
def checkLeading : Option Value → Except Failure Unit
  | none | some (.text _) => .ok ()
  | some _ => .error (.search (.unreadable "source" "EnvSettingsSource"))

/-- Whether something stands before the name of a setting in that of its entry. -/
def hasLeading : Option Value → Bool
  | none => true
  | some (.text target) => target = "variable" ∨ target = "all"
  | some _ => false

/-- What stands before the name of a setting in that of its entry. -/
def leadingOf (entries : List (Value × Value)) : Option Value :=
  if hasLeading (parameter? entries "_env_prefix_target") then parameter? entries "_env_prefix"
  else some (.text [])

def Search.ofParameters (entries : List (Value × Value)) : Except Failure Search := do
  let parameter? := parameter? entries
  checkCuts (parameter? "_env_nested_max_split")
  checkSize (parameter? "_env_prefix")
  return {
    leading := ((leadingOf entries).bind wordOf).getD ({} : Search).leading
    isExact := isWanted entries "_case_sensitive"
    skipsEmpty := isWanted entries "_env_ignore_empty"
    nullWord := (parameter? "_env_parse_none_str").bind wordOf
    encoding := parameter? "_env_file_encoding"
    files := ← pathsOf (parameter? "_env_file")
    directories := ← pathsOf (parameter? "_secrets_dir") }

/-! ## Variables -/

namespace Search

/-- A name as it is compared with others. -/
def compared (search : Search) (name : Text) : Text :=
  if search.isExact then name else Text.lowercased name

def variableName (search : Search) (name : Text) : Text :=
  search.compared (search.leading ++ name)

/-- Variables that count, under the names by which they are compared. Of several under one name, the
last one counts. -/
def counted (search : Search) (listing : List VariableFile.Entry) : List VariableFile.Entry :=
  listing.foldl (fun done entry =>
    if search.skipsEmpty && entry.value == some [] then done
    else VariableFile.put { entry with name := search.compared entry.name } done) []

def valueOf (search : Search) (value : Text) : Value :=
  if search.nullWord = some value then .null else .text value

/-- Settings in variables. -/
def found (search : Search) (listing : List VariableFile.Entry) : List (Value × Value) :=
  names.filterMap fun name => do
    let entry ← listing.find? (·.name == search.variableName name)
    return (.text name, search.valueOf (← entry.value))

/-- Variables with a value that are there for no setting. -/
def strangers (search : Search) (listing : List VariableFile.Entry) : List (Value × Value) :=
  listing.filterMap fun entry =>
    match entry.value with
    | none | some [] => none
    | some value =>
      if (names ++ names.map search.variableName).contains entry.name then none
      else some (.text entry.name, .text value)

/-- The text of a file that lists variables. It is in UTF-8 unless an encoding is given. -/
def fileText (search : Search) (tree : FileTree) (path : Path) : Except Failure (List Char) :=
  match search.encoding.filter (!·.isBlank) with
  | none => (tree.readText path).mapError Failure.cause
  | some (.text name) =>
    (charsetNamed name >>= (tree.readTextIn · path)).mapError Failure.cause
  | some other => .error (.misfit (.notEncoding other.fullKindName))

/-- The variables that files list. A path that leads to no file is passed over. -/
def listed (search : Search) (tree : FileTree) (environment : Environment) :
    Except Failure (List VariableFile.Entry) := do
  let listings ← search.files.mapM fun name => do
    let path := Path.ofText name
    match ← (tree.entry? path).mapError fun fault => Failure.cause (.access fault) with
    | some (.file _) =>
      let text ← search.fileText tree path
      return VariableFile.listing environment text
    | _ => return []
  return search.counted listings.flatten

/-! ## Files of their own -/

/-- The directories in which settings have files. Those that are not there are passed over. -/
def secretPlaces (search : Search) (tree : FileTree) : Except Failure (List Path) := do
  let found ← (search.directories.map Path.ofText).mapM fun path => do
    let entry ← (tree.entry? path).mapError fun fault => Failure.cause (.access fault)
    return entry.map fun entry => (path, entry)
  let found := found.filterMap id
  if found.any (·.2 != .directory) then throw (.search .secretsNotDirectory)
  return found.map (·.1)

/-- The file for a setting in a directory. -/
def secretPath? (search : Search) (tree : FileTree) (directory : Path) (name : Text) :
    Option Path := do
  let segment ← (tree.listing directory).find? (search.compared · == search.variableName name)
  let path := directory.join ⟨.none, [segment]⟩
  match tree.entry? path with
  | .ok (some (.file _)) => some path
  | _ => none

/-- Settings in files of their own, of which those in later directories count more. -/
def secrets (search : Search) (tree : FileTree) : Except Failure (List (Value × Value)) := do
  let directories ← search.secretPlaces tree
  let found ← names.mapM fun name =>
    match directories.reverse.findSome? (search.secretPath? tree · name) with
    | none => pure none
    | some path =>
      match tree.readText path with
      | .ok text =>
        pure (some (Value.text name, Value.text (Text.ofCharacters (Text.trim Text.isBlank text))))
      | .error _ => throw (Failure.search (.unreadable name "SecretsSettingsSource"))
  return found.filterMap id

end Search

/-! ## Arguments -/

def argumentKinds : List CommandLine.OptionKind :=
  names.map fun name => { name, takesValue := true }

/-- The word that stands for null among arguments. -/
def nullArgument : Text := "null"

def ofArguments (arguments : List Text) : Except Failure (List (Value × Value)) :=
  match CommandLine.parse argumentKinds true arguments with
  | none => .error (.search .badArguments)
  | some parsed =>
    if !parsed.operands.isEmpty then .error (.search .badArguments)
    else .ok (names.filterMap fun name =>
      (parsed.value? name).map fun value =>
        (.text name, if value = nullArgument then .null else .text value))

/-- Settings in arguments, if there are any. A false value means that there are none; a true one
means those of the whole run. -/
def givenArguments : Option Value → Except Failure (List (Value × Value))
  | none | some (.bool _) => .ok []
  | some (.list arguments) => do
    let arguments ← arguments.mapM fun
      | .text argument => .ok argument
      | other => .error (.misfit (.notArgument other.fullKindName))
    ofArguments arguments
  | some value =>
    if value.integer? == some 0 then .ok []
    else .error (.search (.notArguments value.fullKindName))

/-! ## Everything -/

/-- Put entries over others. -/
def overlaid (entries upper : List (Value × Value)) : List (Value × Value) :=
  upper.foldl (fun entries (name, value) => Value.put name value entries) entries

/-- A pair that takes the place of the whole search: where to search, of which only nowhere has a
meaning, and what is given. -/
def searchReplaced (pair : Value) : Except Failure (List (Value × Value)) := do
  match ← membersOf pair with
  | [places, _] =>
    if places.isBlank then return []
    else throw (.misfit (.notSource places.fullKindName))
  | _ :: _ :: _ => throw (.cause (.invalid "too many values to unpack (expected 2)"))
  | few =>
    throw (.cause (.invalid
      ("not enough values to unpack (expected 2, got " ++ Text.ofNat few.length ++ ")")))

/-- All settings that are given, by data and wherever that says to search. -/
def search (tree : FileTree) (environment : Environment) (entries : List (Value × Value)) :
    Except Failure (List (Value × Value)) := do
  let (parameters, entries) := entries.partition isParameter
  if (Value.lookup "__pydantic_self__" entries).isSome then throw (.misfit .ownName)
  match parameter? parameters "_build_sources" with
  | some pair => searchReplaced pair
  | none =>
    let search ← Search.ofParameters parameters
    let listed ← search.listed tree environment
    let arguments ← givenArguments (parameter? parameters "_cli_parse_args")
    checkLeading (leadingOf parameters)
    let inherited := search.counted (environment.map fun (name, value) => ⟨name, some value⟩)
    let secrets ← search.secrets tree
    return [search.found listed ++ search.strangers listed, search.found inherited, entries,
      arguments].foldl overlaid secrets

end Settings

end ApiClient
