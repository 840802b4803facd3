import ApiClient.Output.Emission
import ApiClient.Proofs.Agreement

/-! Runs as a whole, from what they begin with to what they end with. What a run does before it
writes does not depend on where the files are kept. -/

namespace ApiClient

/-- What a run has come to, with more messages. -/
def Progress.noting (progress : Progress σ) (log : List LogEntry) : Progress σ :=
  { progress with log := progress.log ++ log }

@[simp] theorem Progress.store_noting (progress : Progress σ) (log : List LogEntry) :
    (progress.noting log).store = progress.store :=
  rfl

namespace Emission

variable {σ α β : Type}

/-- The outcome of a run, and what it has come to then. -/
def ending (emission : Emission σ α) (before : Progress σ) : Except Failure α × Progress σ :=
  emission.run.run before

@[simp] theorem ending_pure (value : α) (before : Progress σ) :
    (pure value : Emission σ α).ending before = (.ok value, before) :=
  rfl

@[simp] theorem ending_get (before : Progress σ) :
    (get : Emission σ (Progress σ)).ending before = (.ok before, before) :=
  rfl

@[simp] theorem ending_modify (change : Progress σ → Progress σ) (before : Progress σ) :
    (modify change : Emission σ Unit).ending before = (.ok (), change before) :=
  rfl

@[simp] theorem ending_note (level : Level) (message : Text) (before : Progress σ) :
    (note level message).ending before = (.ok (), before.noting [⟨level, message⟩]) :=
  rfl

@[simp] theorem ending_liftExcept (outcome : Except Failure α) (before : Progress σ) :
    (liftExcept outcome : Emission σ α).ending before = (outcome, before) := by
  cases outcome <;> rfl

@[simp] theorem ending_ofLogged (logged : Logged Failure α) (before : Progress σ) :
    (ofLogged logged : Emission σ α).ending before =
      (logged.outcome, before.noting logged.log) := by
  obtain ⟨log, outcome⟩ := logged
  cases outcome <;> rfl

theorem ending_bind (first : Emission σ α) (next : α → Emission σ β) (before : Progress σ) :
    (first >>= next).ending before =
      match first.ending before with
      | (.ok value, between) => (next value).ending between
      | (.error failure, between) => (.error failure, between) := by
  change (first.run >>= ExceptT.bindCont next).run before = _
  rw [StateT.run_bind]
  unfold ending
  change (match first.run.run before with
    | (outcome, between) => (ExceptT.bindCont next outcome).run between) = _
  rcases first.run.run before with ⟨outcome, between⟩
  cases outcome <;> rfl

theorem ending_bind_of_ok {first : Emission σ α} {before between : Progress σ} {value : α}
    (ends : first.ending before = (.ok value, between)) (next : α → Emission σ β) :
    (first >>= next).ending before = (next value).ending between := by
  rw [ending_bind, ends]

theorem ending_bind_of_error {first : Emission σ α} {before between : Progress σ}
    {failure : Failure} (ends : first.ending before = (.error failure, between))
    (next : α → Emission σ β) : (first >>= next).ending before = (.error failure, between) := by
  rw [ending_bind, ends]

theorem ending_bind_eq_ok_iff {first : Emission σ α} {next : α → Emission σ β}
    {before after : Progress σ} {result : β} :
    (first >>= next).ending before = (.ok result, after) ↔
      ∃ value between, first.ending before = (.ok value, between) ∧
        (next value).ending between = (.ok result, after) := by
  rw [ending_bind]
  rcases first.ending before with ⟨outcome, between⟩
  cases outcome with
  | error failure => simp
  | ok value =>
      constructor
      · exact fun succeeds => ⟨value, between, rfl, succeeds⟩
      · rintro ⟨_, _, ⟨⟩, succeeds⟩
        exact succeeds

/-- Two computations before anything is written are one. -/
theorem ofLogged_bind (first : Logged Failure α) (next : α → Logged Failure β) :
    (ofLogged (first >>= next) : Emission σ β) =
      ofLogged first >>= fun value => ofLogged (next value) := by
  funext before
  change (ofLogged (first >>= next) : Emission σ β).ending before =
    (ofLogged first >>= fun value => ofLogged (next value)).ending before
  rw [ending_bind, ending_ofLogged, ending_ofLogged]
  obtain ⟨log, outcome⟩ := first
  cases outcome with
  | error failure => rfl
  | ok value =>
      dsimp only
      rw [ending_ofLogged]
      simp [bind, Progress.noting]

end Emission

/-! ## The modules that accompany the document -/

/-- With a specifier for the configuration, two files are left to write. -/
theorem emitSupport_of_specifier {σ : Type} {directory : List Text} (emit : Emitter σ)
    {requestFile httpConfigFile specifier : Text}
    (found : moduleSpecifier directory httpConfigFile requestFile = .ok specifier) :
    emitSupport directory emit requestFile httpConfigFile = do
      let request ← emit requestFile (requestModule specifier) true
      let config ← emit httpConfigFile httpConfiguration false
      return request.toList ++ config.toList := by
  rw [emitSupport, found]
  rfl

/-! ## The two phases of a run -/

/-- The first phase: the document is loaded and its modules are rendered. -/
def Settings.sources (directory : List Text) (settings : Settings)
    (load : Text → Logged Failure Document) : Logged Failure Sources :=
  settings.document load >>= generateSources directory settings

/-- The second phase: the modules of the document are written, and those that accompany them. -/
def emitAll (directory : List Text) (emit : Emitter σ) (settings : Settings) (sources : Sources) :
    Emission σ (List Text) := do
  let models ← emitModels emit sources.models settings.modelsFile
  let api ← emitApi emit sources.api settings.apiFile
  let support ← emitSupport directory emit settings.requestFile settings.httpConfigFile
  return models.toList ++ api.toList ++ support

/-! ## Files one after the other -/

/-- A file as a run writes it, with its content, in place of one that is there or not. -/
structure ModuleFile where
  name : Text
  content : Text
  replaces : Bool

def emitEach {σ : Type} (emit : Emitter σ) : List ModuleFile → Emission σ (List Text)
  | [] => return []
  | file :: rest => do
    let written ← emit file.name file.content file.replaces
    let others ← emitEach emit rest
    return written.toList ++ others

/-- The files of a run. -/
def Settings.files (settings : Settings) (sources : Sources) (specifier : Text) : List ModuleFile :=
  [⟨settings.modelsFile, modelsHeader ++ sources.models, true⟩,
    ⟨settings.apiFile, apiHeader ++ sources.api, true⟩,
    ⟨settings.requestFile, requestModule specifier, true⟩,
    ⟨settings.httpConfigFile, httpConfiguration, false⟩]

/-- Nothing but files is left to write when there is a specifier for the configuration. -/
theorem emitAll_of_specifier {σ : Type} {directory : List Text} (emit : Emitter σ)
    {settings : Settings} (sources : Sources) {specifier : Text}
    (found : moduleSpecifier directory settings.httpConfigFile settings.requestFile =
      .ok specifier) :
    emitAll directory emit settings sources = emitEach emit (settings.files sources specifier) := by
  rw [emitAll, emitSupport_of_specifier emit found]
  simp [emitModels, emitApi, emitEach, Settings.files]

/-- Without a specifier for the configuration not all files are written. -/
theorem exists_specifier_of_emitAll {σ : Type} {directory : List Text} {emit : Emitter σ}
    {settings : Settings} {sources : Sources} {before after : Progress σ} {names : List Text}
    (succeeds : (emitAll directory emit settings sources).ending before = (.ok names, after)) :
    ∃ specifier, moduleSpecifier directory settings.httpConfigFile settings.requestFile =
      .ok specifier := by
  simp only [emitAll, emitSupport, Emission.ending_bind_eq_ok_iff, Emission.ending_liftExcept,
    Prod.mk.injEq, mapError_eq_ok_iff] at succeeds
  obtain ⟨_, _, _, _, _, _, _, _, ⟨specifier, _, ⟨found, _⟩, _⟩, _⟩ := succeeds
  exact ⟨specifier, found⟩

section

variable {σ : Type} (directory : List Text) (emit : Emitter σ) (settings : Settings)
  (load : Text → Logged Failure Document)

private theorem generate_eq_phases :
    generate directory emit settings load =
      Emission.ofLogged (settings.sources directory load) >>= emitAll directory emit settings := by
  rw [Settings.sources, Emission.ofLogged_bind, bind_assoc]
  rfl

/-- A run that fails in the first phase has written nothing, whatever it writes to. -/
theorem ending_generate_of_error (before : Progress σ) {failure : Failure}
    (fails : (settings.sources directory load).outcome = .error failure) :
    (generate directory emit settings load).ending before =
      (.error failure, before.noting (settings.sources directory load).log) := by
  rw [generate_eq_phases]
  apply Emission.ending_bind_of_error
  rw [Emission.ending_ofLogged, fails]

theorem ending_generate_of_ok (before : Progress σ) {sources : Sources}
    (renders : (settings.sources directory load).outcome = .ok sources) :
    (generate directory emit settings load).ending before =
      (emitAll directory emit settings sources).ending
        (before.noting (settings.sources directory load).log) := by
  rw [generate_eq_phases]
  apply Emission.ending_bind_of_ok
  rw [Emission.ending_ofLogged, renders]

/-- A run that succeeds has rendered its modules and a specifier, and is left with files to
write. -/
theorem exists_files_of_generate {directory : List Text} {emit : Emitter σ} {settings : Settings}
    {load : Text → Logged Failure Document} {before after : Progress σ} {names : List Text}
    (succeeds : (generate directory emit settings load).ending before = (.ok names, after)) :
    ∃ sources specifier, (settings.sources directory load).outcome = .ok sources ∧
      moduleSpecifier directory settings.httpConfigFile settings.requestFile = .ok specifier ∧
      (emitEach emit (settings.files sources specifier)).ending
        (before.noting (settings.sources directory load).log) = (.ok names, after) := by
  cases renders : (settings.sources directory load).outcome with
  | error failure =>
      rw [ending_generate_of_error directory emit settings load before renders] at succeeds
      cases succeeds
  | ok sources =>
      rw [ending_generate_of_ok directory emit settings load before renders] at succeeds
      obtain ⟨specifier, found⟩ := exists_specifier_of_emitAll succeeds
      rw [emitAll_of_specifier emit sources found] at succeeds
      exact ⟨sources, specifier, rfl, found, succeeds⟩

end

end ApiClient
