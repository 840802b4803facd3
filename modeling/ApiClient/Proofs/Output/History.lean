import ApiClient.Proofs.Output.Memory

/-! Histories of files in memory: runs, each over a document of its own, between which the files are
edited by hand. A run replaces three files and leaves all others as they are, the configuration of
the client among them once it is there. -/

namespace ApiClient

/-- The names of the files that a run writes, in that order. -/
def Settings.moduleFiles (settings : Settings) : List Text :=
  [settings.modelsFile, settings.apiFile, settings.requestFile, settings.httpConfigFile]

theorem Settings.files_apart {settings : Settings} (distinct : settings.moduleFiles.Nodup) :
    (settings.modelsFile ≠ settings.apiFile ∧ settings.modelsFile ≠ settings.requestFile ∧
      settings.modelsFile ≠ settings.httpConfigFile) ∧
    (settings.apiFile ≠ settings.requestFile ∧ settings.apiFile ≠ settings.httpConfigFile) ∧
    settings.requestFile ≠ settings.httpConfigFile := by
  simpa [moduleFiles] using distinct

private theorem Settings.apart_of_not_mem {settings : Settings} {name : Text}
    (other : name ∉ settings.moduleFiles) :
    settings.modelsFile ≠ name ∧ settings.apiFile ≠ name ∧ settings.requestFile ≠ name ∧
      settings.httpConfigFile ≠ name := by
  simpa [moduleFiles, eq_comm] using other

namespace MemoryFiles

/-! ## Succeeding runs -/

/-- Files with the modules that accompany those of the document. The configuration is only added
where there is none. -/
def withSupport (settings : Settings) (specifier : Text) (files : MemoryFiles) : MemoryFiles :=
  let files := put settings.requestFile (requestModule specifier) files
  if (get? settings.httpConfigFile files).isSome then files
  else put settings.httpConfigFile httpConfiguration files

private theorem ending_emitSupport (directory : List Text) (settings : Settings)
    (before : Progress MemoryFiles) {specifier : Text}
    (found : moduleSpecifier directory settings.httpConfigFile settings.requestFile =
      .ok specifier) :
    (emitSupport directory emit settings.requestFile settings.httpConfigFile).ending before =
      (.ok (settings.requestFile ::
          if (get? settings.httpConfigFile
            (put settings.requestFile (requestModule specifier) before.store)).isSome then []
          else [settings.httpConfigFile]),
        { before with store := withSupport settings specifier before.store }) := by
  rw [emitSupport_of_specifier emit found,
    Emission.ending_bind_of_ok (ending_emit_replacing _ _ _), Emission.ending_bind,
    ending_emit_keeping]
  unfold withSupport
  dsimp only
  cases (get? settings.httpConfigFile
      (put settings.requestFile (requestModule specifier) before.store)).isSome with
  | true => rfl
  | false => rfl

variable {directory : List Text} {settings : Settings}

/-- The names under which a run writes something are listed as they are written. -/
theorem ending_generate_of_specifier (distinct : settings.moduleFiles.Nodup)
    {load : Text → Logged Failure Document} (before : Progress MemoryFiles) {sources : Sources}
    {specifier : Text} (renders : (settings.sources directory load).outcome = .ok sources)
    (found : moduleSpecifier directory settings.httpConfigFile settings.requestFile =
      .ok specifier) :
    (generate directory emit settings load).ending before =
      (.ok ([settings.modelsFile, settings.apiFile, settings.requestFile] ++
          if (get? settings.httpConfigFile before.store).isSome then []
          else [settings.httpConfigFile]),
        { before.noting (settings.sources directory load).log with
          store := withSupport settings specifier
            (withSources settings sources before.store) }) := by
  have same : get? settings.httpConfigFile (put settings.requestFile (requestModule specifier)
      (withSources settings sources before.store)) =
      get? settings.httpConfigFile before.store := by
    obtain ⟨⟨-, -, models⟩, ⟨-, api⟩, request⟩ := Settings.files_apart distinct
    rw [get?_put_of_ne request, withSources, get?_put_of_ne api, get?_put_of_ne models]
  rw [ending_generate_of_ok directory emit settings load before renders, ending_emitAll,
    Emission.ending_bind_of_ok (ending_emitSupport directory settings _ found),
    Emission.ending_pure]
  dsimp only
  rw [Progress.store_noting, same]
  rfl

/-! ## What is there after a run -/

section

variable {specifier : Text} {sources : Sources} {files : MemoryFiles} {name : Text}

private theorem get?_withSources_of_ne (models : settings.modelsFile ≠ name)
    (api : settings.apiFile ≠ name) :
    get? name (withSources settings sources files) = get? name files := by
  rw [withSources, get?_put_of_ne api, get?_put_of_ne models]

private theorem get?_withSupport_of_ne (request : settings.requestFile ≠ name)
    (config : settings.httpConfigFile ≠ name) :
    get? name (withSupport settings specifier files) = get? name files := by
  unfold withSupport
  dsimp only
  split
  · exact get?_put_of_ne request _ _
  · rw [get?_put_of_ne config, get?_put_of_ne request]

private theorem get?_withSupport_request (apart : settings.httpConfigFile ≠ settings.requestFile) :
    get? settings.requestFile (withSupport settings specifier files) =
      some (requestModule specifier) := by
  unfold withSupport
  dsimp only
  split
  · exact get?_put_self _ _ _
  · rw [get?_put_of_ne apart, get?_put_self]

/-- What is there of the configuration stays, and only where there is none it is written. -/
theorem get?_withSupport_config (apart : settings.requestFile ≠ settings.httpConfigFile) :
    get? settings.httpConfigFile (withSupport settings specifier files) =
      some ((get? settings.httpConfigFile files).getD httpConfiguration) := by
  have same := get?_put_of_ne apart (requestModule specifier) files
  unfold withSupport
  dsimp only
  rw [same]
  cases found : get? settings.httpConfigFile files with
  | none => exact get?_put_self _ _ _
  | some content => exact same.trans found

end

/-- The modules of a document, and the one through which its methods go, are there as they were
rendered. -/
structure HasModules (settings : Settings) (sources : Sources) (specifier : Text)
    (files : MemoryFiles) : Prop where
  models : get? settings.modelsFile files = some (modelsHeader ++ sources.models)
  api : get? settings.apiFile files = some (apiHeader ++ sources.api)
  request : get? settings.requestFile files = some (requestModule specifier)

private theorem hasModules_withSupport (distinct : settings.moduleFiles.Nodup) (specifier : Text)
    (sources : Sources) (files : MemoryFiles) :
    HasModules settings sources specifier
      (withSupport settings specifier (withSources settings sources files)) := by
  obtain ⟨⟨models_api, models_request, models_config⟩, ⟨api_request, api_config⟩,
    request_config⟩ := Settings.files_apart distinct
  constructor
  · rw [get?_withSupport_of_ne models_request.symm models_config.symm, withSources,
      get?_put_of_ne models_api.symm, get?_put_self]
  · rw [get?_withSupport_of_ne api_request.symm api_config.symm, withSources, get?_put_self]
  · exact get?_withSupport_request request_config.symm

/-- What a run may do to files: it keeps a configuration that is there, and every file of another
name, and if it succeeds it has written all modules and lists what it wrote. -/
structure KeepsFiles (directory : List Text) (settings : Settings)
    (load : Text → Logged Failure Document) (before : MemoryFiles)
    (outcome : Except Failure (List Text)) (after : MemoryFiles) : Prop where
  configuration : ∀ content, get? settings.httpConfigFile before = some content →
    get? settings.httpConfigFile after = some content
  others : ∀ name, name ∉ settings.moduleFiles → get? name after = get? name before
  success : ∀ names, outcome = .ok names →
    ∃ sources specifier, (settings.sources directory load).outcome = .ok sources ∧
      moduleSpecifier directory settings.httpConfigFile settings.requestFile = .ok specifier ∧
      HasModules settings sources specifier after ∧
      (get? settings.httpConfigFile after).isSome ∧
      names = [settings.modelsFile, settings.apiFile, settings.requestFile] ++
        if (get? settings.httpConfigFile before).isSome then [] else [settings.httpConfigFile]

private theorem keepsFiles_generate (distinct : settings.moduleFiles.Nodup)
    (directory : List Text) (load : Text → Logged Failure Document)
    (before : Progress MemoryFiles) :
    KeepsFiles directory settings load before.store
      ((generate directory emit settings load).ending before).1
      ((generate directory emit settings load).ending before).2.store := by
  have ⟨⟨_, _, models⟩, ⟨_, api⟩, request⟩ := Settings.files_apart distinct
  cases renders : (settings.sources directory load).outcome with
  | error failure =>
      rw [ending_generate_of_error directory emit settings load before renders]
      exact ⟨fun _ found => found, fun _ _ => rfl, fun _ succeeds => by cases succeeds⟩
  | ok sources =>
      by_cases nameless : IsNameless settings.httpConfigFile
      · -- The first two files are written, and neither of them is the configuration.
        rw [ending_generate_of_ok directory emit settings load before renders,
          (ending_emitAll_eq_error_iff directory settings sources _ _ _).mpr ⟨nameless, rfl, rfl⟩]
        refine ⟨fun content there => ?_, fun name other => ?_, fun _ succeeds => by cases succeeds⟩
        · exact (get?_withSources_of_ne models api).trans there
        · have ⟨models, api, _, _⟩ := Settings.apart_of_not_mem other
          exact get?_withSources_of_ne models api
      · obtain ⟨specifier, found⟩ := exists_moduleSpecifier directory nameless settings.requestFile
        rw [ending_generate_of_specifier distinct before renders found]
        have config : get? settings.httpConfigFile
            (withSupport settings specifier (withSources settings sources before.store)) =
            some ((get? settings.httpConfigFile before.store).getD httpConfiguration) := by
          rw [get?_withSupport_config request, get?_withSources_of_ne models api]
        refine ⟨fun content there => ?_, fun name other => ?_, fun names succeeds => ?_⟩
        · rw [config, there, Option.getD_some]
        · have ⟨models, api, request, config⟩ := Settings.apart_of_not_mem other
          exact (get?_withSupport_of_ne request config).trans (get?_withSources_of_ne models api)
        · refine ⟨sources, specifier, renders, found, ?_, ?_, (Except.ok.inj succeeds).symm⟩
          · exact hasModules_withSupport distinct specifier sources before.store
          · rw [config, Option.isSome_some]

/-! ## Histories -/

/-- What can happen to files: somebody edits them in any way, or a document is loaded
and its modules are written. -/
inductive Event where
  | edit (change : MemoryFiles → MemoryFiles)
  | run (directory : List Text) (load : Text → Logged Failure Document)

def Event.after (settings : Settings) (before : Progress MemoryFiles) : Event → Progress MemoryFiles
  | .edit change => { before with store := change before.store }
  | .run directory load => ((generate directory emit settings load).ending before).2

/-- What has become of files after some events. -/
def afterAll (settings : Settings) (events : List Event) (before : Progress MemoryFiles) :
    Progress MemoryFiles :=
  events.foldl (Event.after settings) before

/-- An edit that leaves the configuration alone. -/
def Event.Spares (settings : Settings) : Event → Prop
  | .edit change => ∀ files,
    get? settings.httpConfigFile (change files) = get? settings.httpConfigFile files
  | .run _ _ => True

private theorem get?_config_after (distinct : settings.moduleFiles.Nodup) {event : Event}
    (spares : event.Spares settings) {before : Progress MemoryFiles} {content : Text}
    (there : get? settings.httpConfigFile before.store = some content) :
    get? settings.httpConfigFile (event.after settings before).store = some content := by
  cases event with
  | edit change => exact (spares before.store).trans there
  | run directory load =>
      exact (keepsFiles_generate distinct directory load before).configuration content there

private theorem get?_config_afterAll (distinct : settings.moduleFiles.Nodup) {events : List Event}
    (spare : ∀ event ∈ events, event.Spares settings) {before : Progress MemoryFiles}
    {content : Text} (there : get? settings.httpConfigFile before.store = some content) :
    get? settings.httpConfigFile (afterAll settings events before).store = some content := by
  induction events generalizing before with
  | nil => exact there
  | cons event rest induction =>
      have ⟨first, others⟩ := List.forall_mem_cons.mp spare
      exact induction others (get?_config_after distinct first there)

/-- Whatever has happened before, a run keeps the files as it should, and the configuration stays as
somebody left it over any number of further runs. -/
theorem keepsFiles_history (distinct : settings.moduleFiles.Nodup) (events : List Event)
    (start : Progress MemoryFiles) :
    (∀ directory load,
      KeepsFiles directory settings load (afterAll settings events start).store
        ((generate directory emit settings load).ending (afterAll settings events start)).1
        ((generate directory emit settings load).ending
          (afterAll settings events start)).2.store) ∧
    ∀ later content, (∀ event ∈ later, event.Spares settings) →
      get? settings.httpConfigFile (afterAll settings events start).store = some content →
      get? settings.httpConfigFile (afterAll settings (events ++ later) start).store =
        some content := by
  refine ⟨fun directory load => keepsFiles_generate distinct directory load _, ?_⟩
  intro later content spare there
  rw [afterAll, List.foldl_append]
  exact get?_config_afterAll distinct spare there

/-- A configuration written by hand is kept by a run that finds no document, by an edit of another
file, and by a run that succeeds. -/
theorem keepsFiles_edited :
    let settings : Settings := { source := some "openapi.json" }
    let edit : Event := .edit (put "config.ts" "// mine")
    let later : List Event := [.run [] fun source => .fail (.cause (.noFile source)),
      .edit (put "models.ts" ""), .run [] fun _ => .ofExcept (.ok { openapi := some "3.0.0" })]
    settings.moduleFiles.Nodup ∧ (∀ event ∈ later, event.Spares settings) ∧
      get? "config.ts" (afterAll settings ([edit] ++ later) ⟨[], []⟩).store = some "// mine" := by
  intro settings edit later
  have distinct : settings.moduleFiles.Nodup := by decide
  have spare : ∀ event ∈ later, event.Spares settings := by
    have apart : (Text.ofString "models.ts") ≠ "config.ts" := by decide
    simp [later, Event.Spares, get?_put_of_ne apart, settings]
  exact ⟨distinct, spare, (keepsFiles_history distinct [edit] ⟨[], []⟩).2 later _ spare rfl⟩

end MemoryFiles

end ApiClient
