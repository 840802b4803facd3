import ApiClient.Output.Directory
import ApiClient.Proofs.Files.Directory
import ApiClient.Proofs.Output.History
import Mathlib.Data.List.Nodup

/-! Runs over files below an output directory, against runs over files in memory.
Both do the same as far as every file lies in the output directory itself: the
directory is made, but none below it. -/

namespace ApiClient

/-! ## Contents -/

/-- A text without halves of surrogate pairs. -/
def Text.IsWhole (text : Text) : Prop :=
  ∀ c ∈ text, c.isSurrogate = false

namespace Text.IsWhole

instance (text : Text) : Decidable text.IsWhole :=
  List.decidableBAll (fun c : CodePoint => c.isSurrogate = false) text

theorem ofString (text : String) : IsWhole (Text.ofString text) := by
  simp [IsWhole, Text.ofString, ofCharacters, CodePoint.isSurrogate]

theorem append {first second : Text} (ofFirst : first.IsWhole) (ofSecond : second.IsWhole) :
    IsWhole (first ++ second) :=
  List.forall_mem_append.mpr ⟨ofFirst, ofSecond⟩

private theorem joined {separator : Text} (ofSeparator : separator.IsWhole) {texts : List Text}
    (each : ∀ text ∈ texts, text.IsWhole) : (ApiClient.joined separator texts).IsWhole := by
  induction texts with
  | nil => exact List.forall_mem_nil _
  | cons first rest induction =>
      obtain ⟨ofFirst, others⟩ := List.forall_mem_cons.mp each
      cases rest with
      | nil => exact ofFirst
      | cons second further => exact (ofFirst.append ofSeparator).append (induction others)

private theorem lines {texts : List Text} (each : ∀ text ∈ texts, text.IsWhole) :
    (ApiClient.lines texts).IsWhole :=
  joined (ofString "\n") each

end Text.IsWhole

private theorem isWhole_requestModule {configuration : Text}
    (whole : (quoted configuration).IsWhole) :
    (requestModule configuration).IsWhole := by
  refine .append (.lines (List.forall_mem_cons.mpr ⟨?_, ?_⟩)) (.ofString "\n")
  · exact .append (.append (.ofString _) whole) (.ofString _)
  · exact List.forall_mem_map.mpr fun line _ => .ofString line

private theorem isWhole_httpConfiguration : httpConfiguration.IsWhole :=
  .append (.lines (List.forall_mem_map.mpr fun line _ => .ofString line)) (.ofString "\n")

namespace Text.Utf8

private theorem exists_encodeFrom_iff (position : Nat) (done : List UInt8) (text : Text) :
    (∃ octets, encodeFrom position done text = .ok octets) ↔ text.IsWhole := by
  unfold IsWhole
  induction text generalizing position done with
  | nil => simp [encodeFrom]
  | cons c rest induction =>
      cases c with
      | char c => simpa [encodeFrom, CodePoint.isSurrogate] using induction _ _
      | surrogate index => simp [encodeFrom, CodePoint.isSurrogate]

/-- Exactly the whole texts can be written as octets. -/
theorem exists_encode_iff (text : Text) : (∃ octets, encode text = .ok octets) ↔ text.IsWhole :=
  exists_encodeFrom_iff 0 [] text

end Text.Utf8

namespace DirectoryFiles

variable {output path : Path} {name content : Text} {replaces : Bool} {result : Option Text}
  {before after : Progress DirectoryFiles} {tree : FileTree} {place : List Text}
  {contents : Text → Option (List UInt8)}

/-! ## Steps -/

private theorem ending_setTree (tree : FileTree) (before : Progress DirectoryFiles) :
    (setTree tree).ending before = (.ok (), { before with store := { before.store with tree } }) :=
  rfl

private theorem ending_useTree_eq_ok_iff {α : Type} {outcome : Except AccessFault α} {value : α} :
    (useTree path outcome).ending before = (.ok value, after) ↔
      outcome = .ok value ∧ before = after := by
  cases outcome with
  | ok found => simp [useTree]
  | error fault => cases fault <;> exact ⟨nofun, nofun⟩

/-- What a step does in a tree when it has found nothing to keep. -/
def writing (output path : Path) (content : Text) (tree : FileTree) :
    Emission DirectoryFiles (Option Text) := do
  let ⟨tree, made⟩ := tree.makeDirectories output
  setTree tree
  useTree path made
  setTree (← useTree path (tree.write path []))
  let octets ← liftExcept
    ((Text.Utf8.encode content).mapError fun fault => Failure.cause (.unencodable fault))
  setTree (← useTree path (tree.write path octets))
  Emission.note .info ("Wrote " ++ path.text)
  modify fun progress =>
    { progress with
      store := { progress.store with written := progress.store.written ++ [path.text] } }
  return some path.text

private theorem ending_emit_replacing (output : Path) (name content : Text)
    (before : Progress DirectoryFiles) :
    (emit output name content true).ending before =
      (writing output (output.join (Path.ofText name)) content
        before.store.tree).ending before := by
  unfold emit writing
  rw [Emission.ending_bind_of_ok (Emission.ending_get before)]
  simp only [if_true, pure_bind, Bool.false_eq_true, if_false]

private theorem ending_emit_keeping (output : Path) (name content : Text)
    (before : Progress DirectoryFiles) :
    (emit output name content false).ending before =
      (do
        let isKept ← useTree (output.join (Path.ofText name))
          (before.store.tree.contains (output.join (Path.ofText name)))
        if isKept then
          Emission.note .info ("Keeping existing " ++ (output.join (Path.ofText name)).text)
          return none
        else
          writing output (output.join (Path.ofText name)) content before.store.tree :
        Emission DirectoryFiles (Option Text)).ending before := by
  unfold emit writing
  rw [Emission.ending_bind_of_ok (Emission.ending_get before)]
  simp only [Bool.false_eq_true, if_false]

private theorem ending_writing_eq_ok_iff (has : tree.HasDirectory output) :
    (writing output path content tree).ending before = (.ok result, after) ↔
      ∃ emptied octets filled, tree.write path [] = .ok emptied ∧
        Text.Utf8.encode content = .ok octets ∧ tree.write path octets = .ok filled ∧
        result = some path.text ∧
        after = ⟨⟨filled, before.store.written ++ [path.text]⟩,
          before.log ++ [⟨.info, "Wrote " ++ path.text⟩]⟩ := by
  unfold writing
  rw [FileTree.makeDirectories_of_hasDirectory has]
  simp only [Emission.ending_bind_eq_ok_iff, ending_setTree, ending_useTree_eq_ok_iff,
    Emission.ending_liftExcept, Emission.ending_note, Emission.ending_modify, Emission.ending_pure,
    Prod.mk.injEq, Except.ok.injEq, mapError_eq_ok_iff, true_and, and_assoc, exists_const,
    exists_and_left, exists_eq_left']
  simp only [eq_comm, Progress.noting]

/-- It does not matter whether the directory was made before. -/
theorem ending_emit_of_made (made : (before.store.tree.makeDirectories output).2 = .ok ())
    (name content : Text) :
    (emit output name content true).ending before =
      (emit output name content true).ending
        { before with
          store := { before.store with tree :=
  (before.store.tree.makeDirectories output).1 } } := by
  rw [ending_emit_replacing, ending_emit_replacing, writing, writing,
    FileTree.makeDirectories_of_hasDirectory (FileTree.hasDirectory_makeDirectories made)]
  dsimp only
  rw [Emission.ending_bind_of_ok (ending_setTree _ _),
    Emission.ending_bind_of_ok (ending_setTree _ _), made]

/-- A step that finds nothing to keep succeeds exactly if the system takes the file, and then the
file is in the directory. -/
theorem ending_writing_join_eq_ok_iff (holds : tree.Holds output place contents)
    (inside : path.IsInside) :
    (writing output (output.join path) content tree).ending before = (.ok result, after) ↔
      ∃ segment octets, output.IsFileIn path segment ∧ Text.Utf8.encode content = .ok octets ∧
        result = some (output.join path).text ∧
        after = ⟨⟨tree.put (place ++ [segment]) (.file octets),
            before.store.written ++ [(output.join path).text]⟩,
          before.log ++ [⟨.info, "Wrote " ++ (output.join path).text⟩]⟩ := by
  rw [ending_writing_eq_ok_iff holds.hasDirectory]
  constructor
  · rintro ⟨_, octets, _, -, encoded, filled, rfl, rfl⟩
    obtain ⟨segment, isFile, rfl⟩ := (holds.write_join_eq_ok_iff inside _ _).mp filled
    exact ⟨segment, octets, isFile, encoded, rfl, rfl⟩
  · rintro ⟨segment, octets, isFile, encoded, rfl, rfl⟩
    have writes (octets : List UInt8) := (holds.write_join_eq_ok_iff inside octets _).mpr
      ⟨segment, isFile, rfl⟩
    exact ⟨_, octets, _, writes [], encoded, writes octets, rfl, rfl⟩

/-- There is nothing to keep under a path. -/
structure IsNew (contents : Text → Option (List UInt8)) (path : Path) : Prop where
  named : path.segments ≠ []
  free : ∀ segment, path.segments = [segment] → contents segment = none

private theorem ending_emit_eq_ok_iff (holds : before.store.tree.Holds output place contents)
    (inside : (Path.ofText name).IsInside)
    (new : replaces = false → IsNew contents (Path.ofText name)) :
    (emit output name content replaces).ending before = (.ok result, after) ↔
      ∃ segment octets, output.IsFileIn (Path.ofText name) segment ∧
        Text.Utf8.encode content = .ok octets ∧
        result = some (output.join (Path.ofText name)).text ∧
        after = ⟨⟨before.store.tree.put (place ++ [segment]) (.file octets),
            before.store.written ++ [(output.join (Path.ofText name)).text]⟩,
          before.log ++ [⟨.info, "Wrote " ++ (output.join (Path.ofText name)).text⟩]⟩ := by
  rw [← ending_writing_join_eq_ok_iff holds inside]
  cases replaces with
  | true => rw [ending_emit_replacing]
  | false =>
      obtain ⟨named, free⟩ := new rfl
      rw [ending_emit_keeping, Emission.ending_bind_eq_ok_iff]
      constructor
      · rintro ⟨isKept, between, looks, writes⟩
        obtain ⟨found, rfl⟩ := ending_useTree_eq_ok_iff.mp looks
        cases isKept with
        | true => exact absurd found (holds.contains_join_ne_true inside named free)
        | false => exact writes
      · intro writes
        obtain ⟨segment, _, isFile, -⟩ := (ending_writing_join_eq_ok_iff holds inside).mp writes
        have absent := holds.contains_join_of_isFileIn inside isFile (free segment isFile.single)
        exact ⟨false, before, ending_useTree_eq_ok_iff.mpr ⟨absent, rfl⟩, writes⟩

/-! ## Runs -/

/-- A file whose name and content the system takes in a directory. -/
structure IsStorable (output : Path) (name content : Text) : Prop where
  isFile : ∃ segment, output.IsFileIn (Path.ofText name) segment
  isWhole : content.IsWhole

/-- A file is in a directory, with its content. -/
def IsStored (output : Path) (contents : Text → Option (List UInt8)) (name content : Text) : Prop :=
  ∃ segment octets, output.IsFileIn (Path.ofText name) segment ∧
    Text.Utf8.encode content = .ok octets ∧ contents segment = some octets

private theorem IsStored.isStorable (stored : IsStored output contents name content) :
    IsStorable output name content := by
  obtain ⟨segment, octets, isFile, encoded, -⟩ := stored
  exact ⟨⟨segment, isFile⟩, (Text.Utf8.exists_encode_iff content).mp ⟨octets, encoded⟩⟩

/-- Files that lead downwards to places of their own, where there is nothing to keep. -/
structure AreNew (contents : Text → Option (List UInt8)) (files : List ModuleFile) : Prop where
  inside : ∀ file ∈ files, (Path.ofText file.name).IsInside
  apart : (files.map (Path.ofText ·.name)).Nodup
  new : ∀ file ∈ files, file.replaces = false → IsNew contents (Path.ofText file.name)

private theorem AreNew.segments_ne {file other : ModuleFile} {rest : List ModuleFile}
    (new : AreNew contents (file :: rest)) (further : other ∈ rest) :
    (Path.ofText file.name).segments ≠ (Path.ofText other.name).segments := by
  intro same
  have apart := new.apart
  rw [List.map_cons, List.nodup_cons] at apart
  refine apart.1 (List.mem_map.mpr ⟨other, further, Path.eq_of_isInside ?_ ?_ same.symm⟩)
  · exact new.inside _ (List.mem_cons_of_mem _ further)
  · exact new.inside _ List.mem_cons_self

/-- The remaining files are new still when one has been written. -/
theorem AreNew.tail {file : ModuleFile} {rest : List ModuleFile}
    (new : AreNew contents (file :: rest)) {segment : Text}
    (isFile : output.IsFileIn (Path.ofText file.name) segment) (octets : List UInt8) :
    AreNew (Function.update contents segment (some octets)) rest := by
  refine ⟨fun other further => new.inside other (List.mem_cons_of_mem _ further),
    (List.nodup_cons.mp new.apart).2, fun other further keeps => ?_⟩
  obtain ⟨named, free⟩ := new.new other (List.mem_cons_of_mem _ further) keeps
  refine ⟨named, fun name single => ?_⟩
  have apart : name ≠ segment := by
    rintro rfl
    exact new.segments_ne further (isFile.single.trans single.symm)
  rw [Function.update_of_ne apart]
  exact free name single

private theorem ending_emitEach_cons_eq_ok_iff {σ : Type} {emit : Emitter σ} {file : ModuleFile}
    {rest : List ModuleFile} {names : List Text} {before after : Progress σ} :
    (emitEach emit (file :: rest)).ending before = (.ok names, after) ↔
      ∃ written between others,
        (emit file.name file.content file.replaces).ending before = (.ok written, between) ∧
        (emitEach emit rest).ending between = (.ok others, after) ∧
        names = written.toList ++ others := by
  simp only [emitEach, Emission.ending_bind_eq_ok_iff, Emission.ending_pure, Prod.mk.injEq,
    Except.ok.injEq]
  constructor
  · rintro ⟨written, between, first, others, _, further, rfl, rfl⟩
    exact ⟨written, between, others, first, further, rfl⟩
  · rintro ⟨written, between, others, first, further, rfl⟩
    exact ⟨written, between, first, others, after, further, rfl, rfl⟩

/-- The steps of a run go on in the directory as it has become. -/
theorem holds_emitEach {files : List ModuleFile} (new : AreNew contents files)
    (holds : before.store.tree.Holds output place contents) {names : List Text}
    (succeeds : (emitEach (emit output) files).ending before = (.ok names, after)) :
    names = files.map (fun file => (output.join (Path.ofText file.name)).text) ∧
      ∃ final, after.store.tree.Holds output place final ∧
        (∀ file ∈ files, IsStored output final file.name file.content) ∧
        ∀ segment, (∀ file ∈ files, (Path.ofText file.name).segments ≠ [segment]) →
          final segment = contents segment := by
  induction files generalizing before contents names with
  | nil =>
      cases succeeds
      exact ⟨rfl, contents, holds, by simp, fun _ _ => rfl⟩
  | cons file rest induction =>
      obtain ⟨written, between, others, first, further, rfl⟩ :=
        ending_emitEach_cons_eq_ok_iff.mp succeeds
      obtain ⟨segment, octets, isFile, encoded, rfl, rfl⟩ := (ending_emit_eq_ok_iff holds
        (new.inside _ List.mem_cons_self) (new.new _ List.mem_cons_self)).mp first
      obtain ⟨rfl, final, holds, stored, kept⟩ :=
        induction (new.tail isFile octets) (holds.put segment octets) further
      have kept_first : final segment = some octets := by
        rw [kept segment fun other further => ?_, Function.update_self]
        rw [← isFile.single]
        exact (new.segments_ne further).symm
      refine ⟨rfl, final, holds, List.forall_mem_cons.mpr ⟨?_, stored⟩, fun other apart => ?_⟩
      · exact ⟨segment, octets, isFile, encoded, kept_first⟩
      · have ⟨here, elsewhere⟩ := List.forall_mem_cons.mp apart
        rw [kept other elsewhere, Function.update_of_ne]
        rintro rfl
        exact here isFile.single

/-- A run goes through to its end if the system takes every file. -/
theorem exists_ending_emitEach {files : List ModuleFile} (new : AreNew contents files)
    (holds : before.store.tree.Holds output place contents)
    (storable : ∀ file ∈ files, IsStorable output file.name file.content) :
    ∃ names after, (emitEach (emit output) files).ending before = (.ok names, after) := by
  induction files generalizing before contents with
  | nil => exact ⟨[], before, rfl⟩
  | cons file rest induction =>
      obtain ⟨⟨⟨segment, isFile⟩, isWhole⟩, further⟩ := List.forall_mem_cons.mp storable
      obtain ⟨octets, encoded⟩ := (Text.Utf8.exists_encode_iff _).mpr isWhole
      obtain ⟨between, first, goesOn⟩ : ∃ between,
          (emit output file.name file.content file.replaces).ending before =
            (.ok (some (output.join (Path.ofText file.name)).text), between) ∧
          between.store.tree.Holds output place (Function.update contents segment (some octets)) :=
        ⟨_, (ending_emit_eq_ok_iff holds (new.inside _ List.mem_cons_self)
          (new.new _ List.mem_cons_self)).mpr ⟨segment, octets, isFile, encoded, rfl, rfl⟩,
          holds.put segment octets⟩
      obtain ⟨names, after, others⟩ := induction (new.tail isFile octets) goesOn further
      exact ⟨_, after, ending_emitEach_cons_eq_ok_iff.mpr ⟨_, _, names, first, others, rfl⟩⟩

/-- It does not matter to a run either whether the directory was made before. -/
theorem ending_emitEach_of_made {before : Progress DirectoryFiles}
    (made : (before.store.tree.makeDirectories output).2 = .ok ()) {file : ModuleFile}
    (replaces : file.replaces = true) (rest : List ModuleFile) :
    (emitEach (emit output) (file :: rest)).ending before =
      (emitEach (emit output) (file :: rest)).ending
        { before with
          store := { before.store with tree :=
  (before.store.tree.makeDirectories output).1 } } := by
  rw [emitEach, Emission.ending_bind, Emission.ending_bind, replaces, ending_emit_of_made made]

end DirectoryFiles

/-! ## One run in memory and in a directory -/

namespace DirectoryFiles

private theorem areNew_files {settings : Settings} (sources : Sources) {directory : List Text}
    {specifier : Text}
    (inside : ∀ name ∈ settings.moduleFiles, (Path.ofText name).IsInside)
    (apart : (settings.moduleFiles.map Path.ofText).Nodup)
    (found : moduleSpecifier directory settings.httpConfigFile settings.requestFile =
      .ok specifier) :
    AreNew (fun _ => none) (settings.files sources specifier) := by
  have named : (Path.ofText settings.httpConfigFile).segments ≠ [] := by
    intro nameless
    rw [(moduleSpecifier_fails_iff _ _ _).mpr ((Path.segmentsOf_eq_nil_iff _).mp nameless)] at found
    cases found
  refine ⟨fun file member => inside file.name (List.mem_map_of_mem member), apart,
    fun file member keeps => ⟨?_, fun _ _ => rfl⟩⟩
  have isConfig : file.name = settings.httpConfigFile := by
    simp only [Settings.files, List.mem_cons, List.not_mem_nil, or_false] at member
    obtain rfl | rfl | rfl | rfl := member
    · cases keeps
    · cases keeps
    · cases keeps
    · rfl
  rw [isConfig]
  exact named

/-- What succeeds in memory succeeds in an empty directory exactly if every file goes right into
the directory, under a name and with a content that the system takes. Then each file is there as
it is in memory. No directory is made for a name that leads further down. -/
theorem generate_succeeds_iff_storable {directory : List Text} {settings : Settings}
    {load : Text → Logged Failure Document} {output : Path} {before : Progress DirectoryFiles}
    (fresh : before.store.tree.IsFresh output)
    (inside : ∀ name ∈ settings.moduleFiles, (Path.ofText name).IsInside)
    (apart : (settings.moduleFiles.map Path.ofText).Nodup)
    {names : List Text} {memory : Progress MemoryFiles}
    (succeeds : (generate directory MemoryFiles.emit settings load).ending ⟨[], []⟩ =
      (.ok names, memory)) :
    ((∃ paths after, (generate directory (emit output) settings load).ending before =
        (.ok paths, after)) ↔
      ∀ file ∈ memory.store, IsStorable output file.1 file.2) ∧
    ∀ paths after, (generate directory (emit output) settings load).ending before =
        (.ok paths, after) →
      paths = names.map (fun name => (output.join (Path.ofText name)).text) ∧
      ∀ name content, MemoryFiles.get? name memory.store = some content →
        ∃ octets, Text.Utf8.encode content = .ok octets ∧
          after.store.tree.read (output.join (Path.ofText name)) = .ok octets := by
  obtain ⟨sources, specifier, renders, found, writes⟩ := exists_files_of_generate succeeds
  have new := areNew_files sources inside apart found
  have distinct : ((settings.files sources specifier).map (·.name)).Nodup :=
    .of_map Path.ofText apart
  rw [MemoryFiles.ending_emitEach_of_absent distinct fun _ _ => rfl] at writes
  obtain ⟨rfl, rfl⟩ := (Prod.mk.inj writes).imp_left Except.ok.inj
  obtain ⟨place, holds⟩ := fresh.exists_holds
  -- The directory is made at once, so that the run may as well begin when it is there.
  let log := (settings.sources directory load).log
  have ends : (generate directory (emit output) settings load).ending before =
      (emitEach (emit output) (settings.files sources specifier)).ending
        ⟨{ before.store with tree := (before.store.tree.makeDirectories output).1 },
          before.log ++ log⟩ := by
    have made : ((before.noting log).store.tree.makeDirectories output).2 = .ok () := fresh.made
    rw [ending_generate_of_ok _ _ _ _ _ renders, emitAll_of_specifier _ _ found, Settings.files,
      ending_emitEach_of_made made rfl]
    rfl
  rw [ends]
  dsimp only [Progress.noting, List.nil_append]
  refine ⟨⟨?_, ?_⟩, ?_⟩
  · rintro ⟨paths, after, ends⟩
    obtain ⟨-, final, -, stored, -⟩ := holds_emitEach new holds ends
    exact List.forall_mem_map.mpr fun file member => (stored file member).isStorable
  · intro storable
    exact exists_ending_emitEach new holds (List.forall_mem_map.mp storable)
  · intro paths after ends
    obtain ⟨rfl, final, holds, stored, -⟩ := holds_emitEach new holds ends
    refine ⟨by rw [List.map_map]; rfl, fun name content held => ?_⟩
    obtain ⟨file, member, ⟨⟩⟩ := List.mem_map.mp (MemoryFiles.mem_of_get?_eq_some held)
    obtain ⟨segment, octets, isFile, encoded, there⟩ := stored file member
    exact ⟨octets, encoded, holds.read_join (new.inside file member) isFile there⟩

/-- With the usual names, a small document goes to an empty directory. -/
theorem generate_succeeds_usually :
    let settings : Settings := { source := some "openapi.json" }
    let load : Text → Logged Failure Document :=
      fun _ => .ofExcept (.ok { openapi := some "3.0.0" })
    let output := Path.ofText "out"
    let before : Progress DirectoryFiles := ⟨⟨{}, []⟩, []⟩
    before.store.tree.IsFresh output ∧
      (∀ name ∈ settings.moduleFiles, (Path.ofText name).IsInside) ∧
      (settings.moduleFiles.map Path.ofText).Nodup ∧
      (∃ names memory, (generate [] MemoryFiles.emit settings load).ending ⟨[], []⟩ =
        (.ok names, memory)) ∧
      ∃ paths after, (generate [] (emit output) settings load).ending before =
        (.ok paths, after) := by
  intro settings load output before
  have fresh : before.store.tree.IsFresh output := by
    refine ⟨rfl, fun place located name => ?_⟩
    obtain rfl : _ = place := Except.ok.inj located
    rfl
  have inside : ∀ name ∈ settings.moduleFiles, (Path.ofText name).IsInside := by decide +kernel
  have apart : (settings.moduleFiles.map Path.ofText).Nodup := by decide +kernel
  let api : Text := "import \x7b Request \x7d from './request';\n" ++
    "import * as Models from './models';\n"
  let files := settings.files ⟨[], api⟩ "./config"
  have succeeds : (generate [] MemoryFiles.emit settings load).ending ⟨[], []⟩ =
      (.ok (files.map (·.name)), ⟨files.map fun file => (file.name, file.content),
        [⟨.debug, "Collected 0 operations"⟩]⟩) := by
    have renders : (settings.sources [] load).outcome = .ok ⟨[], api⟩ := by decide +kernel
    have found : moduleSpecifier [] settings.httpConfigFile settings.requestFile =
        .ok "./config" := by decide +kernel
    have distinct : (files.map (·.name)).Nodup := .of_map Path.ofText apart
    rw [ending_generate_of_ok _ _ _ _ _ renders, emitAll_of_specifier _ _ found,
      MemoryFiles.ending_emitEach_of_absent distinct fun _ _ => rfl]
    rfl
  have isFile : ∀ name ∈ settings.moduleFiles, output.IsFileIn (Path.ofText name) name := by
    decide +kernel
  have isWhole : ∀ file ∈ files, file.content.IsWhole := by
    simp only [files, Settings.files, List.forall_mem_cons]
    refine ⟨.append (.ofString _) (.ofString ""), .append (.ofString _) ?_,
      isWhole_requestModule (by decide +kernel), isWhole_httpConfiguration, List.forall_mem_nil _⟩
    exact .append (.ofString _) (.ofString _)
  have storable : ∀ file ∈ files.map fun file => (file.name, file.content),
      IsStorable output file.1 file.2 :=
    List.forall_mem_map.mpr fun file member =>
      ⟨⟨_, isFile file.name (List.mem_map_of_mem member)⟩, isWhole file member⟩
  exact ⟨fresh, inside, apart, ⟨_, _, succeeds⟩,
    (generate_succeeds_iff_storable fresh inside apart succeeds).1.mpr storable⟩

/-- A module in a directory of its own goes to files in memory, but to no output directory that is
empty. -/
theorem generate_fails_below :
    let settings : Settings :=
  { source := some "openapi.json", requestFile := "runtime/request.ts" }
    let load : Text → Logged Failure Document :=
      fun _ => .ofExcept (.ok { openapi := some "3.0.0" })
    ((generate [] MemoryFiles.emit settings load).ending ⟨[], []⟩).1 =
        .ok ["models.ts", "api.ts", "runtime/request.ts", "config.ts"] ∧
      ((generate [] (emit (Path.ofText "out")) settings load).ending ⟨⟨{}, []⟩, []⟩).1 =
        .error (.fault (.output "out/runtime/request.ts"
          (some (.access (.refused .absent "out/runtime/request.ts"))))) := by
  intro settings load
  constructor
  · rfl
  · decide +kernel

end DirectoryFiles

end ApiClient
