import ApiClient.CommandLine.Request
import ApiClient.Output.Directory
import ApiClient.Settings.Discovery
import ApiClient.Text.Markup

/-! Runs of the tool from the command line. -/

namespace ApiClient

namespace CommandLine

def version : Text := "0.1.0"

/-! ## Surroundings and outcomes -/

/-- What a run works on. -/
structure Surroundings where
  tree : FileTree
  environment : Environment := []
  web : Network.Web := Network.Web.unreachable

/-- What a run leaves: its exit code, what it prints, the least level of the messages that are
shown, and the files. -/
structure Outcome where
  exitCode : Nat
  report : List Text := []
  level : Level := .warning
  tree : FileTree
  log : List LogEntry := []
  deriving Repr

def successCode : Nat := 0

def failureCode : Nat := 1

def misuseCode : Nat := 2

/-! ## Printing

Everything that is printed is read as text with tags. A text whose tags do not match ends the
run. -/

/-- Control characters that a terminal would act on. -/
def isTerminalControl (c : Char) : Bool :=
  c == '\x07' || c == '\x08' || c == '\x0b' || c == '\x0c' || c == '\r'

/-- Tabs become spaces up to the next place that is a multiple of eight. -/
def withoutTabs (column : Nat) : List Char → List Char
  | [] => []
  | '\t' :: rest => List.replicate (8 - column % 8) ' ' ++ withoutTabs 0 rest
  | '\n' :: rest => '\n' :: withoutTabs 0 rest
  | c :: rest => c :: withoutTabs (column + 1) rest

/-- A text as it is printed, if it can be. -/
def printed? (text : Text) : Option Text := do
  let plain ← Text.Markup.plain? (← text.characters?)
  return Text.ofCharacters (withoutTabs 0 (plain.filter (!isTerminalControl ·)))

/-- The texts that are printed until one cannot be, and whether all of them were. -/
def printed : List Text → List Text × Bool
  | [] => ([], true)
  | text :: rest =>
    match printed? text with
    | none => ([], false)
    | some shown =>
      let (more, isComplete) := printed rest
      (shown :: more, isComplete)

/-! ## The command -/

/-- What is said while a run goes on. -/
def progressText (source output : Text) : Text :=
  "[progress.description]Generating code for " ++ source ++ " in " ++ output ++ "..."

def completionText (source : Text) : Text :=
  "[progress.description]Code generation completed for " ++ source ++ "!"

def failureText (failure : Failure) : Text :=
  "[red]Error:[/red] " ++ failure.message.getD []

def filesTexts (paths : List Text) : List Text :=
  "[dim]Generated files:[/dim]" :: paths.map fun path => "  - " ++ path

end CommandLine

/-- Settings with what the command line says in their place: the source always, the output if a
directory is given. -/
def Settings.withArguments (settings : Settings) (source : Text) (directory : Option Text) :
    Settings :=
  { settings with
    source := some source
    output :=
      match directory with
      | none | some [] => settings.output
      | some directory => directory }

namespace CommandLine

/-- Generate the files that settings ask for, in their output directory. -/
def Surroundings.generate (surroundings : Surroundings) (settings : Settings) :
    Except Failure (List Text) × Progress DirectoryFiles :=
  let directory := surroundings.tree.home
  let origins : Origins :=
    { tree := surroundings.tree, base := ⟨.single, directory⟩, web := surroundings.web }
  (ApiClient.generate directory (DirectoryFiles.emit (Path.ofText settings.output)) settings
    (loadDocument origins)).run.run { store := { tree := surroundings.tree } }

/-- The outcome with a report. What cannot be printed makes the run fail. -/
def Outcome.reporting (texts : List Text) (outcome : Outcome) : Outcome :=
  match printed texts with
  | (report, true) => { outcome with report }
  | (report, false) => { outcome with report, exitCode := failureCode }

def runGenerate (surroundings : Surroundings) (level : Level) (source : Text)
    (directory config : Option Text) : Outcome :=
  let failed (failure : Failure) (tree : FileTree) (log : List LogEntry) : Outcome :=
    ({ exitCode := failureCode, level, tree, log : Outcome }).reporting [failureText failure]
  match Settings.find surroundings.tree surroundings.environment config with
  | .error failure => failed failure surroundings.tree []
  | .ok found =>
    let settings := found.withArguments source directory
    let (outcome, progress) := surroundings.generate settings
    let tree := progress.store.tree
    match outcome with
    | .error failure =>
      if (printed? (progressText source settings.output)).isNone then
        { exitCode := failureCode, level, tree, log := progress.log }
      else failed failure tree progress.log
    | .ok paths =>
      if (printed? (completionText source)).isNone then
        { exitCode := failureCode, level, tree, log := progress.log }
      else
        ({ exitCode := successCode, level, tree, log := progress.log : Outcome }).reporting
          (filesTexts paths)

/-! ## Runs -/

def usage : List Text := [
  "Usage: apistub [--version] [--verbose] [--help] get SOURCE [OPTIONS]",
  "",
  "  -d, --dir DIRECTORY   where the generated code goes, ./ by default",
  "  -c, --config FILE     a configuration file, in YAML or JSON",
  "      --help            show this text"]

def run (surroundings : Surroundings) (arguments : List Text) : Outcome :=
  let invocation := Invocation.ofArguments arguments
  let level : Level := if invocation.verbose then .debug else .warning
  let tree := surroundings.tree
  match invocation.request with
  | .version =>
    { exitCode := successCode, report := ["apistub version: " ++ version], level, tree }
  | .help => { exitCode := successCode, report := usage, level, tree }
  | .misuse => { exitCode := misuseCode, report := usage, level, tree }
  | .generate source directory config => runGenerate surroundings level source directory config

end CommandLine

end ApiClient
