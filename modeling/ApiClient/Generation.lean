import ApiClient.Api.Module
import ApiClient.Fault
import ApiClient.Settings
import ApiClient.Source.Chain

/-! From a document to the text of its modules. Nothing is written here, and the result depends on
the document, the settings and the working directory alone. -/

namespace ApiClient

structure Sources where
  models : Text
  api : Text
  deriving DecidableEq, Repr

/-- A given source, or words for a document that comes from nowhere. -/
def Settings.sourceShown (settings : Settings) : Text :=
  match settings.source with
  | none | some [] => "<document>"
  | some source => source

/-- The specifiers by which the module of the methods imports the others. -/
def Settings.apiImports (directory : List Text) (settings : Settings) :
    Except NamelessPath ApiImports := do
  let models ← moduleSpecifier directory settings.modelsFile settings.apiFile
  let request ← moduleSpecifier directory settings.requestFile settings.apiFile
  return { space := settings.modelsNamespace, models, request }

/-- The text of the two modules that depend on the document. -/
def generateSources (directory : List Text) (settings : Settings) (document : Document) :
    Logged Failure Sources := do
  if document.openapi.isNone then
    Logged.fail
      (.fault (.validation settings.sourceShown ["OpenAPI version is not defined"]))
  let endpoints ←
    (document.endpoints (some settings.modelsNamespace)).mapError CollectionFault.failure
  Logged.debug ("Collected " ++ Text.ofNat endpoints.length ++ " operations")
  let schemas := (document.components.bind (·.schemas)).getD []
  let models ← (renderModels schemas).mapError Failure.unwritable
  let imports ← Logged.ofExcept ((settings.apiImports directory).mapError Failure.nameless)
  let api ← renderApi imports endpoints
  return { models, api }

end ApiClient
