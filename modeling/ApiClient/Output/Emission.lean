import ApiClient.Api.Support
import ApiClient.Generation

/-! Writing generated files. What is written, and what is left alone, does not depend on where the
files are kept. -/

namespace ApiClient

/-- What a run has come to: the files as they are now, and the messages so far. -/
structure Progress (σ : Type) where
  store : σ
  log : List LogEntry := []
  deriving Repr

/-- A run over a store of files. A run that fails keeps what it did before. -/
abbrev Emission (σ α : Type) := ExceptT Failure (StateM (Progress σ)) α

namespace Emission

def note (level : Level) (message : Text) : Emission σ Unit :=
  modify fun progress => { progress with log := progress.log ++ [⟨level, message⟩] }

def ofLogged (logged : Logged Failure α) : Emission σ α := do
  modify fun progress => { progress with log := progress.log ++ logged.log }
  liftExcept logged.outcome

end Emission

/-- How a store takes a file: its name, its content, and whether it replaces a file that is there.
The answer is where the file was written, if it was. -/
abbrev Emitter (σ : Type) :=
  (name content : Text) → (replaces : Bool) → Emission σ (Option Text)

/-! ## Generated files -/

def modelsHeader : Text := "// Generated models from OpenAPI schema.\n\n"

def apiHeader : Text := "// Generated API endpoints from OpenAPI schema.\n\n"

def emitModels (emit : Emitter σ) (source name : Text) : Emission σ (Option Text) :=
  emit name (modelsHeader ++ source) true

def emitApi (emit : Emitter σ) (source name : Text) : Emission σ (Option Text) :=
  emit name (apiHeader ++ source) true

/-- Write the modules that accompany the generated ones. The configuration is not replaced. -/
def emitSupport (directory : List Text) (emit : Emitter σ) (requestFile httpConfigFile : Text) :
    Emission σ (List Text) := do
  let configuration ←
    liftExcept ((moduleSpecifier directory httpConfigFile requestFile).mapError Failure.nameless)
  let request ← emit requestFile (requestModule configuration) true
  let config ← emit httpConfigFile httpConfiguration false
  return request.toList ++ config.toList

/-! ## Whole runs -/

/-- The document that the settings name. -/
def Settings.document (settings : Settings) (load : Text → Logged Failure Document) :
    Logged Failure Document :=
  match settings.source with
  | none | some [] =>
    Logged.fail (.fault (.configuration "No OpenAPI source given" none (some "source")))
  | some source => load source

/-- Load a document, render its modules, and write them with those that accompany them. The answer
lists what was written, in that order. -/
def generate (directory : List Text) (emit : Emitter σ) (settings : Settings)
    (load : Text → Logged Failure Document) : Emission σ (List Text) := do
  let document ← Emission.ofLogged (settings.document load)
  let sources ← Emission.ofLogged (generateSources directory settings document)
  let models ← emitModels emit sources.models settings.modelsFile
  let api ← emitApi emit sources.api settings.apiFile
  let support ← emitSupport directory emit settings.requestFile settings.httpConfigFile
  return models.toList ++ api.toList ++ support

end ApiClient
