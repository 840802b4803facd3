import ApiClient.Output.Memory
import ApiClient.Proofs.Output.Emission
import ApiClient.Proofs.Source.Specifier

/-! Runs over files in memory. Nothing can go wrong there while a file is written, so that a failing
run tells apart what is rendered before the first file is written and what is rendered after it. -/

namespace ApiClient

namespace MemoryFiles

/-! ## Files by name -/

@[simp] theorem get?_put_self (name content : Text) (files : MemoryFiles) :
    get? name (put name content files) = some content := by
  induction files with
  | nil => simp [put, get?]
  | cons file rest induction =>
      rw [put]
      split
      · simp [get?]
      · rename_i other
        simp [get?, other, induction]

theorem get?_put_of_ne {name other : Text} (different : name ≠ other) (content : Text)
    (files : MemoryFiles) : get? other (put name content files) = get? other files := by
  induction files with
  | nil => simp [put, get?, different]
  | cons file rest induction =>
      rw [put]
      split
      · rename_i same
        simp [get?, same, different]
      · simp [get?, induction]

private theorem put_put_self (name first second : Text) (files : MemoryFiles) :
    put name second (put name first files) = put name second files := by
  induction files with
  | nil => simp [put]
  | cons file rest induction =>
      simp only [put]
      split
      · simp [put]
      · rename_i other
        simp [put, other, induction]

/-- Only a file that is there already can be written without a change. -/
theorem put_eq_self_iff (name content : Text) (files : MemoryFiles) :
    put name content files = files ↔ get? name files = some content := by
  constructor
  · intro same
    rw [← same, get?_put_self]
  · intro found
    induction files with
    | nil => simp [get?] at found
    | cons file rest induction =>
        rw [get?] at found
        rw [put]
        split
        · rename_i same
          rw [if_pos same] at found
          rw [← same, ← Option.some.inj found]
        · rename_i other
          rw [if_neg other] at found
          rw [induction found]

private theorem put_of_get?_eq_none {name : Text} {files : MemoryFiles}
    (absent : get? name files = none) (content : Text) :
    put name content files = files ++ [(name, content)] := by
  induction files with
  | nil => rfl
  | cons file rest induction =>
      rw [get?] at absent
      split at absent
      · cases absent
      · rename_i other
        rw [put, if_neg other, induction absent]
        rfl

theorem mem_of_get?_eq_some {name content : Text} {files : MemoryFiles}
    (found : get? name files = some content) : (name, content) ∈ files := by
  induction files with
  | nil => cases found
  | cons file rest induction =>
      rw [get?] at found
      split at found
      · rename_i same
        cases found
        exact same ▸ List.mem_cons_self
      · exact List.mem_cons_of_mem _ (induction found)

/-! ## What is there when a run fails late -/

/-- Files with the modules that depend on the document. -/
def withSources (settings : Settings) (sources : Sources) (files : MemoryFiles) : MemoryFiles :=
  put settings.apiFile (apiHeader ++ sources.api)
    (put settings.modelsFile (modelsHeader ++ sources.models) files)

/-- The modules that depend on the document are there. Where both have one name, it is the second
that counts. -/
def HasSources (settings : Settings) (sources : Sources) (files : MemoryFiles) : Prop :=
  get? settings.apiFile files = some (apiHeader ++ sources.api) ∧
    (settings.modelsFile = settings.apiFile ∨
      get? settings.modelsFile files = some (modelsHeader ++ sources.models))

private theorem withSources_eq_self_iff (settings : Settings) (sources : Sources)
    (files : MemoryFiles) :
    withSources settings sources files = files ↔ HasSources settings sources files := by
  unfold withSources HasSources
  by_cases shared : settings.modelsFile = settings.apiFile
  · rw [shared, put_put_self, put_eq_self_iff]
    simp
  · constructor
    · intro same
      have api := congrArg (get? settings.apiFile) same
      have models := congrArg (get? settings.modelsFile) same
      rw [get?_put_self] at api
      rw [get?_put_of_ne (Ne.symm shared), get?_put_self] at models
      exact ⟨api.symm, .inr models.symm⟩
    · rintro ⟨api, sharedName | models⟩
      · exact absurd sharedName shared
      · rw [(put_eq_self_iff _ _ _).mpr models, (put_eq_self_iff _ _ _).mpr api]

/-! ## Steps -/

theorem ending_emit_replacing (name content : Text) (before : Progress MemoryFiles) :
    (emit name content true).ending before =
      (.ok (some name), { before with store := put name content before.store }) :=
  rfl

theorem ending_emit_keeping (name content : Text) (before : Progress MemoryFiles) :
    (emit name content false).ending before =
      if (get? name before.store).isSome then (.ok none, before)
      else (.ok (some name), { before with store := put name content before.store }) := by
  unfold emit
  rw [Emission.ending_bind_of_ok (Emission.ending_get before)]
  simp only [Bool.not_false, Bool.true_and]
  cases (get? name before.store).isSome with
  | true => rfl
  | false => rfl

/-- Writing a file does not fail. -/
theorem exists_ending_emit (name content : Text) (replaces : Bool)
    (before : Progress MemoryFiles) :
    ∃ written after, (emit name content replaces).ending before = (.ok written, after) := by
  cases replaces with
  | true => exact ⟨_, _, ending_emit_replacing name content before⟩
  | false =>
      rw [ending_emit_keeping]
      split
      · exact ⟨_, _, rfl⟩
      · exact ⟨_, _, rfl⟩

private theorem ending_emit_of_absent {name : Text} {before : Progress MemoryFiles}
    (absent : get? name before.store = none) (content : Text) (replaces : Bool) :
    (emit name content replaces).ending before =
      (.ok (some name), { before with store := before.store ++ [(name, content)] }) := by
  rw [← put_of_get?_eq_none absent]
  cases replaces with
  | true => rw [ending_emit_replacing]
  | false => rw [ending_emit_keeping, absent, Option.isSome_none, if_neg Bool.false_ne_true]

/-- New files come in the order in which they are written. -/
theorem ending_emitEach_of_absent {files : List ModuleFile}
    (distinct : (files.map (·.name)).Nodup) {before : Progress MemoryFiles}
    (absent : ∀ file ∈ files, get? file.name before.store = none) :
    (emitEach emit files).ending before =
      (.ok (files.map (·.name)),
        { before with
          store := before.store ++ files.map fun file => (file.name, file.content) }) := by
  induction files generalizing before with
  | nil =>
      rw [List.map_nil, List.map_nil, List.append_nil]
      rfl
  | cons file rest induction =>
      obtain ⟨here, further⟩ := List.forall_mem_cons.mp absent
      rw [List.map_cons, List.nodup_cons] at distinct
      have others : ∀ other ∈ rest,
          get? other.name (before.store ++ [(file.name, file.content)]) = none := by
        intro other isFurther
        have apart : file.name ≠ other.name :=
          fun same => distinct.1 (same ▸ List.mem_map_of_mem isFurther)
        rw [← put_of_get?_eq_none here, get?_put_of_ne apart, further other isFurther]
      rw [emitEach, Emission.ending_bind_of_ok (ending_emit_of_absent here _ _),
        Emission.ending_bind_of_ok (induction distinct.2 others), Emission.ending_pure]
      simp

section

variable (directory : List Text) (settings : Settings) (sources : Sources)
  (before : Progress MemoryFiles)

/-- The first two files are written whatever comes after them. -/
theorem ending_emitAll :
    (emitAll directory emit settings sources).ending before =
      (do
        let support ← emitSupport directory emit settings.requestFile settings.httpConfigFile
        return settings.modelsFile :: settings.apiFile :: support : Emission MemoryFiles _).ending
        { before with store := withSources settings sources before.store } :=
  rfl

private theorem ending_emitSupport_of_nameless {httpConfigFile : Text}
    (nameless : IsNameless httpConfigFile) (requestFile : Text) :
    (emitSupport directory emit requestFile httpConfigFile).ending before =
      (.error (.nameless ⟨Path.ofText httpConfigFile⟩), before) := by
  unfold emitSupport
  apply Emission.ending_bind_of_error
  rw [Emission.ending_liftExcept, (moduleSpecifier_fails_iff _ _ _).mpr nameless]
  rfl

private theorem exists_ending_emitSupport {httpConfigFile : Text}
    (named : ¬IsNameless httpConfigFile) (requestFile : Text) :
    ∃ written after, (emitSupport directory emit requestFile httpConfigFile).ending before =
      (.ok written, after) := by
  obtain ⟨specifier, found⟩ := exists_moduleSpecifier directory named requestFile
  obtain ⟨request, between, ofRequest⟩ :=
    exists_ending_emit requestFile (requestModule specifier) true before
  obtain ⟨config, after, ofConfig⟩ :=
    exists_ending_emit httpConfigFile httpConfiguration false between
  refine ⟨request.toList ++ config.toList, after, ?_⟩
  rw [emitSupport_of_specifier emit found, Emission.ending_bind_of_ok ofRequest,
    Emission.ending_bind_of_ok ofConfig, Emission.ending_pure]

/-- The second phase fails exactly if the configuration has no name, and then it has written two
files. -/
theorem ending_emitAll_eq_error_iff (failure : Failure) (after : Progress MemoryFiles) :
    (emitAll directory emit settings sources).ending before = (.error failure, after) ↔
      IsNameless settings.httpConfigFile ∧
        failure = .nameless ⟨Path.ofText settings.httpConfigFile⟩ ∧
        after = { before with store := withSources settings sources before.store } := by
  rw [ending_emitAll]
  by_cases nameless : IsNameless settings.httpConfigFile
  · rw [Emission.ending_bind_of_error (ending_emitSupport_of_nameless _ _ nameless _)]
    simp only [nameless, true_and, Prod.mk.injEq, Except.error.injEq, eq_comm]
  · obtain ⟨written, rest, succeeds⟩ := exists_ending_emitSupport directory
      { before with store := withSources settings sources before.store } nameless
      settings.requestFile
    rw [Emission.ending_bind_of_ok succeeds, Emission.ending_pure]
    simp [nameless]

end

/-! ## Failing runs -/

private theorem generate_fails_cases {directory : List Text} {settings : Settings}
    {load : Text → Logged Failure Document} {before after : Progress MemoryFiles}
    {failure : Failure}
    (fails : (generate directory emit settings load).ending before = (.error failure, after)) :
    after.store = before.store ∨
      IsNameless settings.httpConfigFile ∧
        ∃ sources, (settings.sources directory load).outcome = .ok sources ∧
          after.store = withSources settings sources before.store := by
  cases phase : (settings.sources directory load).outcome with
  | error reason =>
      rw [ending_generate_of_error directory emit settings load before phase] at fails
      obtain ⟨-, rfl⟩ := Prod.mk.inj fails
      exact .inl (Progress.store_noting _ _)
  | ok sources =>
      rw [ending_generate_of_ok directory emit settings load before phase,
        ending_emitAll_eq_error_iff] at fails
      obtain ⟨nameless, -, rfl⟩ := fails
      exact .inr ⟨nameless, sources, rfl, rfl⟩

/-- A run that fails changes the files exactly if the modules of the document could be rendered and
the configuration has no name. Then it has written these modules and nothing else. -/
theorem generate_fails_with_changes_iff (directory : List Text) (settings : Settings)
    (load : Text → Logged Failure Document) (before : Progress MemoryFiles) (left : MemoryFiles) :
    (left ≠ before.store ∧ ∃ failure log,
        (generate directory emit settings load).ending before = (.error failure, ⟨left, log⟩)) ↔
      IsNameless settings.httpConfigFile ∧
        ∃ sources, (settings.sources directory load).outcome = .ok sources ∧
          ¬HasSources settings sources before.store ∧
          left = withSources settings sources before.store := by
  constructor
  · rintro ⟨changed, failure, log, fails⟩
    rcases generate_fails_cases fails with same | ⟨nameless, sources, rendered, written⟩
    · exact absurd same changed
    · refine ⟨nameless, sources, rendered, ?_, written⟩
      rw [← withSources_eq_self_iff]
      intro same
      exact changed (written.trans same)
  · rintro ⟨nameless, sources, rendered, missing, rfl⟩
    refine ⟨fun same => missing ((withSources_eq_self_iff _ _ _).mp same), ?_⟩
    let log := before.log ++ (settings.sources directory load).log
    refine ⟨.nameless ⟨Path.ofText settings.httpConfigFile⟩, log, ?_⟩
    rw [ending_generate_of_ok directory emit settings load before rendered,
      ending_emitAll_eq_error_iff]
    exact ⟨nameless, rfl, rfl⟩

/-- The configuration is named by the empty text. The document is as small as it can be. -/
theorem generate_leaves_two_files :
    (generate [] emit { source := some "openapi.json", httpConfigFile := "" }
        (fun _ => Logged.ofExcept (.ok { openapi := some "3.0.0" }))).ending ⟨[], []⟩ =
      (.error (.nameless ⟨Path.ofText ""⟩),
        ⟨[("models.ts", modelsHeader),
            ("api.ts",
              apiHeader ++
                ("import \x7b Request \x7d from './request';\n" ++
                  "import * as Models from './models';\n"))],
          [⟨.debug, "Collected 0 operations"⟩]⟩) := by
  rfl

end MemoryFiles

end ApiClient
