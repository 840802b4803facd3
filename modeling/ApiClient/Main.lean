import ApiClient.CommandLine

/-! The program. It brings the files that a run may look at into a tree, lets the run work on the
tree, and writes back what the run has changed. -/

namespace ApiClient.Program

/-! ## Files -/

/-- Half of a surrogate pair is in the name of no file that is looked at here. -/
def systemText (text : Text) : String :=
  String.ofList (text.filterMap (·.character?))

def placeText (place : List Text) : String :=
  systemText ("/" ++ joined "/" place)

/-- The entry at a place, if there is one. What is there and cannot be read counts as a
directory. -/
def readEntry (place : List Text) : IO (Option FileEntry) := do
  try
    return some (.file (← IO.FS.readBinFile (placeText place)).toList)
  catch _ =>
    try
      let _ ← IO.FS.realPath (placeText place)
      return some .directory
    catch _ => return none

/-- Bring what a path leads through and leads to into a tree. -/
def look (tree : FileTree) (path : Path) : IO FileTree := do
  let place := path.place tree.home
  let mut tree := tree
  for size in List.range place.length do
    let part := place.take (size + 1)
    if let some entry ← readEntry part then
      tree := tree.put part entry
  return tree

def lookAll (tree : FileTree) (paths : List Path) : IO FileTree :=
  paths.foldlM look tree

/-- Write an entry unless it was there before. -/
def writeEntry (before : FileTree) (place : List Text) (entry : FileEntry) : IO Unit := do
  if before.entryAt place != some entry then
    match entry with
    | .directory => IO.FS.createDirAll (placeText place)
    | .file content => IO.FS.writeBinFile (placeText place) ⟨content.toArray⟩

/-! ## Surroundings -/

/-- The environment, as the system lists it for this process. -/
def readEnvironment : IO Environment := do
  let octets ← try IO.FS.readBinFile "/proc/self/environ" catch _ => pure ⟨#[]⟩
  let text := Text.Utf8.decodeLossy octets.toList
  return (Text.parts (· == '\x00') text).map fun setting =>
    let (name, value) := Text.cut (· == '=') setting
    (Text.ofCharacters name, Text.ofCharacters (value.drop 1))

def readHome : IO (List Text) := do
  return (Path.ofText (Text.ofString (← IO.currentDir).toString)).segments

/-- Where settings and the document may be. -/
def inputPaths : CommandLine.Request → List Path
  | .generate source _ config =>
    (Settings.fileNames ++ [Settings.projectFileName, source, config.getD []]).map Path.ofText
  | _ => []

/-- Where a search for settings goes. -/
def searchPaths (surroundings : CommandLine.Surroundings) : CommandLine.Request → List Path
  | .generate _ _ config =>
    let found := do
      let written ← Settings.written surroundings.tree surroundings.environment config
      Settings.Search.ofParameters (written.entries.filter Settings.isParameter)
    match found with
    | .error _ => []
    | .ok search =>
      let directories := search.directories.map Path.ofText
      let files := directories.flatMap fun directory =>
        Settings.names.map fun name => directory.join ⟨.none, [search.variableName name]⟩
      search.files.map Path.ofText ++ directories ++ files
  | _ => []

/-- Where generated files go. -/
def outputPaths (settings : Settings) : List Path :=
  let output := Path.ofText settings.output
  output :: ([settings.modelsFile, settings.apiFile, settings.requestFile,
    settings.httpConfigFile].map fun name => output.join (Path.ofText name))

def outputPathsOf (surroundings : CommandLine.Surroundings) : CommandLine.Request → List Path
  | .generate source directory config =>
    match Settings.find surroundings.tree surroundings.environment config with
    | .ok settings => outputPaths (settings.withArguments source directory)
    | .error _ => []
  | _ => []

def readSurroundings (request : CommandLine.Request) : IO CommandLine.Surroundings := do
  let environment ← readEnvironment
  let tree ← lookAll ⟨← readHome, []⟩ (⟨.none, []⟩ :: inputPaths request)
  let tree ← lookAll tree (searchPaths { tree, environment } request)
  let tree ← lookAll tree (outputPathsOf { tree, environment } request)
  return { tree, environment }

def isShown (least : Level) (entry : LogEntry) : Bool :=
  least == .debug || entry.level == .warning

def run (arguments : List Text) : IO UInt32 := do
  let invocation := CommandLine.Invocation.ofArguments arguments
  let surroundings ← readSurroundings invocation.request
  let outcome := CommandLine.run surroundings arguments
  for (place, entry) in outcome.tree.entries do
    writeEntry surroundings.tree place entry
  for entry in outcome.log do
    if isShown outcome.level entry then IO.eprintln (systemText entry.message)
  for line in outcome.report do
    IO.println (systemText line)
  return UInt32.ofNat outcome.exitCode

end ApiClient.Program

def main (arguments : List String) : IO UInt32 :=
  ApiClient.Program.run (arguments.map ApiClient.Text.ofString)
