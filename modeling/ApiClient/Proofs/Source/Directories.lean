import ApiClient.Proofs.Code.Keys
import ApiClient.Proofs.Output.Emission
import ApiClient.Proofs.Source.Chain
import ApiClient.Proofs.Source.Resolution

/-! Specifiers seen from different working directories. They are the same everywhere exactly if
the named module and the directory of the importing one climb equally high above the directory
of the output. What lies between two heights has its name from the working directory, and is not
there at all near the root. -/

namespace ApiClient

/-- The segments of a working directory are names. -/
def IsDirectory (directory : List Text) : Prop :=
  ∀ segment ∈ directory, Path.IsName segment

instance (directory : List Text) : Decidable (IsDirectory directory) :=
  List.decidableBAll Path.IsName directory

/-- A module and the directory of another one climb equally high. -/
def AreLevel (name importer : Text) : Prop :=
  ∀ target, (Path.ofText name).withoutSuffix? = some target →
    target.course.climb = (Path.ofText (beforeLastSlash importer)).course.climb

/-! ## Single specifiers -/

private theorem exists_isName_not_mem (names : List Text) :
    ∃ name, Path.IsName name ∧ name ∉ names := by
  refine ⟨.char 'a' :: List.replicate names.flatten.length (.char 'a'), ⟨⟨?_, ?_, ?_⟩, ?_⟩, ?_⟩
  · simp
  · simp
  · nofun
  · nofun
  · intro member
    have length := (List.sublist_flatten_of_mem member).length_le
    rw [List.length_cons, List.length_replicate] at length
    omega

private theorem root_of_withoutSuffix? {name : Text} (relative : name.head? ≠ some (.char '/'))
    {target : Path} (found : (Path.ofText name).withoutSuffix? = some target) :
    target.root = .none := by
  obtain ⟨_, -, rfl⟩ := Option.map_eq_some_iff.mp found
  exact (Path.root_ofText_eq_none_iff name).mpr relative

private theorem isName_of_withoutSuffix? {name : Text} {target : Path}
    (found : (Path.ofText name).withoutSuffix? = some target) :
    ∀ part ∈ target.course.descent, Path.IsName part := by
  obtain ⟨last, isLast, rfl⟩ := Option.map_eq_some_iff.mp found
  refine @Path.Course.isName_of_mem_descent {} nofun _ fun part member => ?_
  rcases List.mem_append.mp member with member | member
  · have step := Path.isStep_of_mem_segmentsOf (List.dropLast_subset _ member)
    exact ⟨step.nonempty, step.undivided⟩
  · have step := Path.isStep_of_mem_segmentsOf (List.mem_of_getLast? isLast)
    rw [List.mem_singleton.mp member]
    exact ⟨Path.splitSuffix_fst_ne_nil step.nonempty, Path.not_mem_splitSuffix_fst step.undivided⟩

section

variable {name importer : Text} {target : Path}

/-- The specifier of a relative name, by courses. -/
theorem moduleSpecifier_eq_of_course (directory : List Text)
    (found : (Path.ofText name).withoutSuffix? = some target)
    (relative : name.head? ≠ some (.char '/')) (alike : importer.head? ≠ some (.char '/')) :
    moduleSpecifier directory name importer =
      .ok (specifierOf (Path.between
        ((Path.ofText (beforeLastSlash importer)).course.place directory)
        (target.course.place directory))) := by
  rw [moduleSpecifier_eq directory found, Path.place_eq (relative_beforeLastSlash alike),
    Path.place_eq (root_of_withoutSuffix? relative found)]

private theorem moduleSpecifier_of_areLevel (relative : name.head? ≠ some (.char '/'))
    (alike : importer.head? ≠ some (.char '/')) (level : AreLevel name importer)
    (here there : List Text) :
    moduleSpecifier here name importer = moduleSpecifier there name importer := by
  cases found : (Path.ofText name).withoutSuffix? with
  | none => rw [moduleSpecifier, moduleSpecifier, found]
  | some target =>
      have same := level target found
      rw [moduleSpecifier_eq_of_course here found relative alike,
        moduleSpecifier_eq_of_course there found relative alike, Path.Course.between_place same,
        Path.Course.between_place same]

end

namespace Path.Course

variable (start goal : Course)

/-- From the root there are no more steps than there are steps down. -/
theorem length_between_root :
    (between (start.place []) (goal.place [])).length ≤
      start.descent.length + goal.descent.length := by
  rw [place, place, List.rdrop_nil, List.rdrop_nil]
  exact length_between_le _ _

/-- A list that begins with copies of a name has that name for its first element. -/
theorem head?_replicate_append {count : Nat} (positive : 0 < count) (name : Text)
    (rest : List Text) :
    (List.replicate count name ++ rest).head? = some name := by
  obtain ⟨others, rfl⟩ := Nat.exists_eq_add_one.mpr positive
  rfl

/-- Far below the root, in directories of which the courses do not know, the
heights make a difference. -/
theorem length_between_deep {name : Text} (differ : goal.climb ≠ start.climb)
    (unknown : name ∉ start.descent ++ goal.descent) :
    let directory := List.replicate (max start.climb goal.climb) name
    start.descent.length + goal.descent.length <
      (between (start.place directory) (goal.place directory)).length := by
  intro directory
  have dropped (climb : Nat) : directory.rdrop climb =
      List.replicate (max start.climb goal.climb - climb) name := by
    rw [List.rdrop, List.length_replicate, List.take_replicate, Nat.min_eq_left (Nat.sub_le _ _)]
  have apart : ∀ part ∈ (start.place directory).head?, part ∉ (goal.place directory).head? := by
    rw [place, place, dropped, dropped]
    rintro part first same
    rcases Nat.lt_or_gt_of_ne differ with lower | higher
    · rw [head?_replicate_append (by omega)] at same
      rw [Nat.max_eq_left lower.le, Nat.sub_self] at first
      exact unknown (List.mem_append_left _ (Option.some.inj same ▸ List.mem_of_mem_head? first))
    · rw [head?_replicate_append (by omega)] at first
      rw [Nat.max_eq_right higher.le, Nat.sub_self] at same
      exact unknown (List.mem_append_right _ (Option.some.inj first ▸ List.mem_of_mem_head? same))
  rw [between_of_apart apart]
  simp only [place, dropped, List.length_append, List.length_replicate]
  omega

end Path.Course

section

variable {name importer : Text} (relative : name.head? ≠ some (.char '/'))
  (alike : importer.head? ≠ some (.char '/'))

include relative alike

private theorem areLevel_of_moduleSpecifier
    (same : ∀ here there, IsDirectory here → IsDirectory there →
      moduleSpecifier here name importer = moduleSpecifier there name importer) :
    AreLevel name importer := by
  intro target found
  generalize ofStart : (Path.ofText (beforeLastSlash importer)).course = start
  have names := isName_of_withoutSuffix? found
  by_contra differ
  obtain ⟨segment, isName, unknown⟩ :=
    exists_isName_not_mem (start.descent ++ target.course.descent)
  have shallow := start.length_between_root target.course
  have deep := start.length_between_deep target.course differ unknown
  dsimp only at deep
  generalize isDeep : List.replicate (max start.climb target.course.climb) segment =
    directory at deep
  have isDirectory : IsDirectory directory := fun part member =>
    List.eq_of_mem_replicate (isDeep ▸ member) ▸ isName
  -- a specifier tells its steps, so that the same specifier has equally many of them
  have each {directory : List Text} (isDirectory : IsDirectory directory) :
      Path.segmentsOf (specifierOf
        (Path.between (start.place directory) (target.course.place directory))) =
      Path.between (start.place directory) (target.course.place directory) := by
    refine segmentsOf_specifierOf (Path.isStep_of_mem_between fun part member => ?_)
    rcases List.mem_append.mp member with member | member
    · exact (isDirectory part (List.take_subset _ _ member)).toIsStep
    · exact (names part member).toIsStep
  have root : IsDirectory [] := nofun
  have everywhere := same [] directory root isDirectory
  rw [moduleSpecifier_eq_of_course [] found relative alike,
    moduleSpecifier_eq_of_course directory found relative alike, ofStart] at everywhere
  have steps := congrArg Path.segmentsOf (Except.ok.inj everywhere)
  rw [each root, each isDirectory] at steps
  rw [steps] at shallow
  omega

end

/-! ## Generated text -/

/-- The imports of a module tell its specifiers. -/
theorem ApiImports.text_inj {space models request otherModels otherRequest : Text}
    (same : ApiImports.text ⟨space, models, request⟩ =
      ApiImports.text ⟨space, otherModels, otherRequest⟩) :
    models = otherModels ∧ request = otherRequest := by
  simp only [ApiImports.text, List.append_assoc, List.append_cancel_left_eq] at same
  have ofRequest := congrArg Code.readKey? same
  rw [Code.readKey?_quoted, Code.readKey?_quoted] at ofRequest
  obtain ⟨rfl, -⟩ := Prod.mk.inj (Option.some.inj ofRequest)
  simp only [List.append_cancel_left_eq] at same
  have ofModels := congrArg Code.readKey? same
  rw [Code.readKey?_quoted, Code.readKey?_quoted] at ofModels
  exact ⟨(Prod.mk.inj (Option.some.inj ofModels)).1, rfl⟩

/-- The request builder tells the specifier of its configuration. -/
theorem requestModule_inj {configuration other : Text}
    (same : requestModule configuration = requestModule other) : configuration = other := by
  simp only [requestModule, lines, joined_cons, List.append_assoc, List.append_cancel_left_eq]
    at same
  have read := congrArg Code.readKey? same
  rw [Code.readKey?_quoted, Code.readKey?_quoted] at read
  exact (Prod.mk.inj (Option.some.inj read)).1

/-- Settings by which a run comes to write all its modules: there is a source, and the modules have
relative names, of which those that are imported are names of files. -/
structure Settings.AreUsable (settings : Settings) : Prop where
  source : ∃ source : Text, settings.source = some source ∧ source ≠ []
  relative : ∀ name ∈ [settings.modelsFile, settings.apiFile, settings.requestFile,
    settings.httpConfigFile], name.head? ≠ some (.char '/')
  named : ∀ name ∈ [settings.modelsFile, settings.requestFile, settings.httpConfigFile],
    ¬IsNameless name

/-- All modules are level with the directories of those that import them. -/
structure Settings.AreLevel (settings : Settings) : Prop where
  models : ApiClient.AreLevel settings.modelsFile settings.apiFile
  request : ApiClient.AreLevel settings.requestFile settings.apiFile
  configuration : ApiClient.AreLevel settings.httpConfigFile settings.requestFile

section

variable {settings : Settings} {directory : List Text}

private theorem apiImports_eq {models request : Text}
    (ofModels : moduleSpecifier directory settings.modelsFile settings.apiFile = .ok models)
    (ofRequest : moduleSpecifier directory settings.requestFile settings.apiFile = .ok request) :
    settings.apiImports directory = .ok ⟨settings.modelsNamespace, models, request⟩ := by
  rw [Settings.apiImports, ofModels, ofRequest]
  rfl

/-- The modules of a document that declares nothing. -/
theorem generateSources_of_empty {imports : ApiImports}
    (found : settings.apiImports directory = .ok imports) :
    (generateSources directory settings { openapi := some "3.0.0" }).outcome =
      .ok ⟨[], imports.text ++ "\n"⟩ := by
  rw [generateSources, found]
  rfl

/-- A store that keeps nothing, and answers with what a file holds. -/
def echo : Emitter Unit := fun _ content _ => pure (some content)

private theorem ending_generate_echo {source : Text} (given : settings.source = some source)
    (nonempty : source ≠ []) {imports : ApiImports} {configuration : Text}
    (found : settings.apiImports directory = .ok imports)
    (ofConfiguration : moduleSpecifier directory settings.httpConfigFile settings.requestFile =
      .ok configuration) :
    ((generate directory echo settings fun _ =>
      pure { openapi := some "3.0.0" }).ending ⟨(), []⟩).1 =
      .ok [modelsHeader ++ [], apiHeader ++ (imports.text ++ "\n"), requestModule configuration,
        httpConfiguration] := by
  have renders : (settings.sources directory fun _ => pure { openapi := some "3.0.0" }).outcome =
      .ok ⟨[], imports.text ++ "\n"⟩ := by
    have loads : settings.document (fun _ => pure { openapi := some "3.0.0" }) =
        pure { openapi := some "3.0.0" } := by
      rw [Settings.document, given]
      cases source with
      | nil => exact absurd rfl nonempty
      | cons c rest => rfl
    rw [Settings.sources, loads, Logged.outcome_bind]
    exact generateSources_of_empty found
  rw [ending_generate_of_ok directory echo settings _ _ renders,
    emitAll_of_specifier echo _ ofConfiguration]
  rfl

private theorem generate_of_areLevel (usable : settings.AreUsable) (level : settings.AreLevel)
    (here there : List Text) {σ : Type} (emit : Emitter σ) (load : Text → Logged Failure Document) :
    generate here emit settings load = generate there emit settings load := by
  obtain ⟨-, relative, -⟩ := usable
  have models := relative settings.modelsFile (by simp)
  have api := relative settings.apiFile (by simp)
  have request := relative settings.requestFile (by simp)
  have configuration := relative settings.httpConfigFile (by simp)
  have imports : settings.apiImports here = settings.apiImports there := by
    rw [Settings.apiImports, Settings.apiImports,
      moduleSpecifier_of_areLevel models api level.models here there,
      moduleSpecifier_of_areLevel request api level.request here there]
  have sources (document : Document) :
      generateSources here settings document = generateSources there settings document := by
    rw [generateSources, generateSources, imports]
  have support : emitSupport here emit settings.requestFile settings.httpConfigFile =
      emitSupport there emit settings.requestFile settings.httpConfigFile := by
    rw [emitSupport, emitSupport,
      moduleSpecifier_of_areLevel configuration request level.configuration here there]
  simp only [generate, sources, support]

/-- In every directory all imported modules have specifiers. -/
theorem exists_specifiers (usable : settings.AreUsable) (directory : List Text) :
    ∃ models request configuration,
      moduleSpecifier directory settings.modelsFile settings.apiFile = .ok models ∧
      moduleSpecifier directory settings.requestFile settings.apiFile = .ok request ∧
      moduleSpecifier directory settings.httpConfigFile settings.requestFile =
        .ok configuration := by
  have find (name importer : Text)
      (among : name ∈ [settings.modelsFile, settings.requestFile, settings.httpConfigFile]) :
      ∃ specifier, moduleSpecifier directory name importer = .ok specifier :=
    exists_moduleSpecifier directory (usable.named name among) importer
  obtain ⟨models, ofModels⟩ := find settings.modelsFile settings.apiFile (by simp)
  obtain ⟨request, ofRequest⟩ := find settings.requestFile settings.apiFile (by simp)
  obtain ⟨configuration, ofConfiguration⟩ :=
    find settings.httpConfigFile settings.requestFile (by simp)
  exact ⟨models, request, configuration, ofModels, ofRequest, ofConfiguration⟩

/-- Runs that write the same modules find the same specifiers, since the texts of the modules tell
them. -/
theorem specifiers_eq_of_generate (usable : settings.AreUsable) {here there : List Text}
    (same : ∀ {σ : Type} (emit : Emitter σ) (load : Text → Logged Failure Document),
      generate here emit settings load = generate there emit settings load) :
    moduleSpecifier here settings.modelsFile settings.apiFile =
        moduleSpecifier there settings.modelsFile settings.apiFile ∧
      moduleSpecifier here settings.requestFile settings.apiFile =
        moduleSpecifier there settings.requestFile settings.apiFile ∧
      moduleSpecifier here settings.httpConfigFile settings.requestFile =
        moduleSpecifier there settings.httpConfigFile settings.requestFile := by
  obtain ⟨source, given, nonempty⟩ := usable.source
  obtain ⟨models, request, configuration, ofModels, ofRequest, ofConfiguration⟩ :=
    exists_specifiers usable here
  obtain ⟨others, other, further, ofOthers, ofOther, ofFurther⟩ := exists_specifiers usable there
  have texts := congrArg (fun run => (Emission.ending run ⟨(), []⟩).1)
    (same echo fun _ => pure { openapi := some "3.0.0" })
  rw [ending_generate_echo given nonempty (apiImports_eq ofModels ofRequest) ofConfiguration,
    ending_generate_echo given nonempty (apiImports_eq ofOthers ofOther) ofFurther] at texts
  simp only [Except.ok.injEq, List.cons.injEq, List.append_cancel_left_eq,
    List.append_cancel_right_eq, true_and, and_true] at texts
  obtain ⟨rfl, rfl⟩ := ApiImports.text_inj texts.1
  obtain rfl := requestModule_inj texts.2
  exact ⟨ofModels.trans ofOthers.symm, ofRequest.trans ofOther.symm,
    ofConfiguration.trans ofFurther.symm⟩

private theorem areLevel_of_generate (usable : settings.AreUsable)
    (same : ∀ here there, IsDirectory here → IsDirectory there → ∀ {σ : Type} (emit : Emitter σ)
      (load : Text → Logged Failure Document),
      generate here emit settings load = generate there emit settings load) :
      settings.AreLevel := by
  have relative := usable.relative
  have api := relative settings.apiFile (by simp)
  have request := relative settings.requestFile (by simp)
  have alike (here there : List Text) (ofHere : IsDirectory here) (ofThere : IsDirectory there) :=
    specifiers_eq_of_generate usable (same here there ofHere ofThere)
  exact {
    models := areLevel_of_moduleSpecifier (relative _ (by simp)) api
      fun here there ofHere ofThere =>
      (alike here there ofHere ofThere).1
    request := areLevel_of_moduleSpecifier request api fun here there ofHere ofThere =>
      (alike here there ofHere ofThere).2.1
    configuration := areLevel_of_moduleSpecifier (relative _ (by simp)) request
      fun here there ofHere ofThere => (alike here there ofHere ofThere).2.2 }

end

/-- A specifier is the same in all working directories exactly if the named module is level with the
directory of the importing one, and so is everything that a run writes. -/
theorem generate_anywhere_iff (name importer : Text) (settings : Settings) :
    (name.head? ≠ some (.char '/') → importer.head? ≠ some (.char '/') →
      ((∀ here there, IsDirectory here → IsDirectory there →
        moduleSpecifier here name importer = moduleSpecifier there name importer) ↔
        AreLevel name importer)) ∧
    (settings.AreUsable →
      ((∀ here there, IsDirectory here → IsDirectory there → ∀ {σ : Type} (emit : Emitter σ)
          (load : Text → Logged Failure Document),
          generate here emit settings load = generate there emit settings load) ↔
        settings.AreLevel)) := by
  refine ⟨fun relative alike => ⟨areLevel_of_moduleSpecifier relative alike, ?_⟩,
    fun usable => ⟨areLevel_of_generate usable, ?_⟩⟩
  · exact fun level here there _ _ => moduleSpecifier_of_areLevel relative alike level here there
  · exact fun level here there _ _ _ emit load =>
      generate_of_areLevel usable level here there emit load

/-- Modules in sibling directories above that of the output are found from everywhere. -/
theorem generate_anywhere_siblings :
    let settings : Settings :=
      { source := some "api.json", modelsFile := "../shared/../models.ts", apiFile :=
        "../api/api.ts",
        requestFile := "../api/request.ts", httpConfigFile := "../settings/http.ts" }
    settings.AreUsable ∧ settings.AreLevel ∧
      (∀ here there, IsDirectory here → IsDirectory there → ∀ {σ : Type} (emit : Emitter σ)
        (load : Text → Logged Failure Document),
        generate here emit settings load = generate there emit settings load) ∧
      (∀ here there, IsDirectory here → IsDirectory there →
        moduleSpecifier here settings.modelsFile settings.apiFile =
          moduleSpecifier there settings.modelsFile settings.apiFile) ∧
      moduleSpecifier ["work"] settings.modelsFile settings.apiFile = .ok "../models" := by
  intro settings
  have usable : settings.AreUsable := ⟨⟨_, rfl, by decide⟩, by decide, by decide⟩
  have level : settings.AreLevel := by
    constructor <;>
      · intro target found
        cases found
        decide
  obtain ⟨single, whole⟩ := generate_anywhere_iff settings.modelsFile settings.apiFile settings
  exact ⟨usable, level, (whole usable).mpr level, (single (by decide) (by decide)).mpr level.models,
    by decide⟩

/-- Near the root steps up are lost, so that two names which climb differently both begin there.
And what lies between two heights is named as the working directory is. -/
theorem generate_varies :
    let name : Text := "../../../../../../../../../a.ts"
    let importer : Text := "../../../../../../../../b.ts"
    let deep : List Text := ["r", "s", "t", "u", "v", "w", "x", "y", "z"]
    IsDirectory ["tmp", "work"] ∧ IsDirectory deep ∧
      moduleSpecifier ["tmp", "work"] name importer = .ok "./a" ∧
      moduleSpecifier deep name importer = .ok "../a" ∧
      moduleSpecifier ["tmp", "work"] "models.ts" "../api.ts" = .ok "./work/models" ∧
      moduleSpecifier deep "models.ts" "../api.ts" = .ok "./z/models" := by
  decide

end ApiClient
