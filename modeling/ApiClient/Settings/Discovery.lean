import ApiClient.Data.Toml.Reader
import ApiClient.Loading
import ApiClient.Settings.Reading

/-! Finding the settings. They are written in one place only: a file that is asked for, or else a
settings file in the working directory, or else the table for this tool in the description of a
project, or else nowhere, which leaves the search and the defaults. -/

namespace ApiClient

namespace Settings

/-- The names of settings files, in the order in which they are looked for. -/
def fileNames : List Text := ["apistub.yaml", "apistub.yml"]

def projectFileName : Text := "pyproject.toml"

/-- The key of the table for this tool among the tools of a project. -/
def toolName : Text := "apistub"

/-! ## Data -/

/-- The data of a settings file, by its suffix. Only JSON needs one. -/
def readFile (tree : FileTree) (path : Path) : Except Cause Value := do
  let text ← tree.readText path
  if path.hasSuffix [".json"] then (Json.read text).mapError Cause.json
  else
    let value ← (Yaml.read text).mapError Cause.yaml
    return if value.isBlank then .map [] else value

/-- Keys must be texts. -/
def isTextKey : Value × Value → Bool
  | (.text _, _) => true
  | _ => false

def obstacleFailure : Expansion.Obstacle → Failure
  | .unencodable fault => .cause (.unencodable fault)
  | .unset name =>
    .fault (.configuration ("Environment variable " ++ name ++ " is not set") none none)
  | .endless => .cause .endless

/-- Settings as they are written down, and where that is. -/
structure Written where
  entries : List (Value × Value) := []
  place : Option Text := none
  deriving Repr

/-- What is written in data of a file. References to the environment are replaced before anything
else is looked at. -/
def Written.ofData (environment : Environment) (place : Text) (data : Value) :
    Except Failure Written := do
  match ← (Expansion.expandData environment data).mapError obstacleFailure with
  | .map entries =>
    if entries.all isTextKey then return { entries, place := some place }
    else throw (.misfit .keyNotText)
  | data => throw (.misfit (.notMapping data.fullKindName))

/-- Problems are told together with the file that has them. -/
def Written.failure (written : Written) (entries : List (Value × Value))
    (problems : List Problem) : Failure :=
  match written.place with
  | none => .problems (problems.map Problem.message)
  | some place => .fault (.configuration (problemsText entries problems) (some place) none)

/-- The settings that are written down, with what a search adds to them. -/
def ofWritten (tree : FileTree) (environment : Environment) (written : Written) :
    Except Failure Settings := do
  let entries ← search tree environment written.entries
  match check entries with
  | .accepted settings _ _ => return settings
  | .refused problems => throw (written.failure entries problems)

/-- The data for this tool in the description of a project, if there is any. It stands in a table;
data of another form is only refused if it names the tool or cannot be searched for it. -/
def toolData (project : Value) : Except Failure (Option Value) :=
  match (project.field? "tool").getD (.map []) with
  | .map tools => .ok (Value.lookup toolName tools)
  | .list tools =>
    if tools.any (·.sameKey (.text toolName)) then .error (.misfit .listOfTools) else .ok none
  | .text tools =>
    if Text.occurs toolName tools then .error (.misfit .textOfTools) else .ok none
  | tools => .error (.misfit (.notSearchable tools.fullKindName))

/-! ## Places -/

def ofFile (tree : FileTree) (environment : Environment) (path : Path) (place : Text) :
    Except Failure Written := do
  let data ← (readFile tree path).mapError Failure.cause
  Written.ofData environment place data

def ofProject (tree : FileTree) (environment : Environment) (path : Path) :
    Except Failure Written := do
  let text ← (tree.readText path).mapError Failure.cause
  let project ← (Toml.read text).mapError fun fault => Failure.cause (.toml fault)
  match ← toolData project with
  | some data => Written.ofData environment path.text data
  | none => return {}

def contains (tree : FileTree) (path : Path) : Except Failure Bool :=
  (tree.contains path).mapError fun fault => .cause (.access fault)

/-- What is written in the working directory, in the first file that is there. -/
def discovered (tree : FileTree) (environment : Environment) (directory : Path) :
    List Text → Except Failure Written
  | [] => do
    let path := directory.join (Path.ofText projectFileName)
    if ← contains tree path then ofProject tree environment path else return {}
  | name :: others => do
    let path := directory.join (Path.ofText name)
    if ← contains tree path then ofFile tree environment path path.text
    else discovered tree environment directory others

/-- What is written for a run. A path that is asked for must be there. -/
def written (tree : FileTree) (environment : Environment) (asked : Option Text) :
    Except Failure Written := do
  match asked with
  | none | some [] => discovered tree environment ⟨.single, tree.home⟩ fileNames
  | some asked =>
    let path := Path.ofText asked
    if ← contains tree path then ofFile tree environment path asked
    else throw (.fault (.configuration "Configuration file not found" (some asked) none))

/-- The settings of a run. -/
def find (tree : FileTree) (environment : Environment) (asked : Option Text) :
    Except Failure Settings := do
  ofWritten tree environment (← written tree environment asked)

end Settings

end ApiClient
