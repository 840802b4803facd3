import ApiClient.CommandLine
import ApiClient.Proofs.Settings.Layers
import ApiClient.Proofs.Settings.Places
import ApiClient.Proofs.Settings.Reading

/-! Which settings a run has. The first place that says anything decides which entries there
are. Each setting has the value that its entry gives, or else that of its variable in the
environment, or else its default, and the command line comes before all of these. Entries that
are no settings are refused, apart from those under keys which say how to search. -/

namespace ApiClient.Settings

/-- The last value under a key. -/
def lookupLast (key : Text) (entries : List (Value × Value)) : Option Value :=
  Value.lookup key entries.reverse

/-- Every key is that of a setting, which can have its value. -/
def AreSettings (entries : List (Value × Value)) : Prop :=
  ∀ name value, lookupLast name entries = some value → name ∈ names ∧ (settingOf? name value).isSome

/-! ## Layers -/

/-- What a setting is by entries, and where it has none by the environment, and else by default. -/
inductive Layered (environment : Environment) (entries : List (Value × Value)) (name : Text) :
    Option Text → Prop where
  | given {value : Value} {result : Option Text} (there : lookupLast name entries = some value)
      (reads : settingOf? name value = some result) : Layered environment entries name result
  | inherited {value : Text} (absent : lookupLast name entries = none)
      (set : environment.lastNamed? (variableOf name) = some value) :
      Layered environment entries name (some value)
  | default (absent : lookupLast name entries = none)
      (unset : environment.lastNamed? (variableOf name) = none) :
      Layered environment entries name (({} : Settings).valueOf name)

/-- Entries over the settings of the environment. -/
def overEnvironment (environment : Environment) (entries : List (Value × Value)) :
    List (Value × Value) :=
  overlaid (overlaid [] (inherited environment)) entries

section

variable {tree : FileTree} {environment : Environment} {entries : List (Value × Value)}
  {name place : Text} {value : Value}

theorem lookup_overEnvironment (texts : HaveTextKeys entries) :
    Value.lookup name (overEnvironment environment entries) = (lookupLast name entries).or
      (if name ∈ names then (environment.lastNamed? (variableOf name)).map .text else none) := by
  rw [overEnvironment, lookup_overlaid texts, lookup_overlaid (haveTextKeys_inherited environment),
    lookup_inherited, Value.lookup, Option.or_none, lookupLast]

private theorem haveTextKeys_overEnvironment (texts : HaveTextKeys entries) :
    HaveTextKeys (overEnvironment environment entries) :=
  haveTextKeys_overlaid (haveTextKeys_overlaid nofun (haveTextKeys_inherited environment)) texts

private theorem isAccepted_overEnvironment (texts : HaveTextKeys entries)
    (fit : AreSettings entries) :
    (check (overEnvironment environment entries)).isAccepted := by
  have found {name : Text} {value : Value}
      (there : Value.lookup name (overEnvironment environment entries) = some value) :
      name ∈ names ∧ (settingOf? name value).isSome := by
    rw [lookup_overEnvironment texts] at there
    cases own : lookupLast name entries with
    | some given =>
        rw [own] at there
        cases there
        exact fit name value own
    | none =>
        rw [own, Option.none_or] at there
        split at there
        · rename_i known
          obtain ⟨text, _, rfl⟩ := Option.map_eq_some_iff.mp there
          exact ⟨known, rfl⟩
        · cases there
  refine isAccepted_check.mpr ⟨?_, fun name _ value there => (found there).2⟩
  rintro ⟨key, value⟩ member
  obtain ⟨name, named⟩ := haveTextKeys_overEnvironment texts _ member
  cases named
  obtain ⟨given, there⟩ := Option.isSome_iff_exists.mp (isSome_lookup_of_mem member)
  exact if_pos (List.contains_iff_mem.mpr (found there).1)

private theorem not_isAccepted_overEnvironment (texts : HaveTextKeys entries)
    (there : lookupLast name entries = some value)
    (unfit : name ∉ names ∨ settingOf? name value = none) :
    ¬(check (overEnvironment environment entries)).isAccepted := by
  have found : Value.lookup name (overEnvironment environment entries) = some value := by
    rw [lookup_overEnvironment texts, there, Option.some_or]
  intro accepted
  obtain ⟨known, fit⟩ := isAccepted_check.mp accepted
  by_cases isName : name ∈ names
  · have settable := fit name isName value found
    rw [unfit.resolve_left (not_not_intro isName)] at settable
    cases settable
  · have named := known _ (mem_of_lookup found)
    rw [otherName?, if_neg (mt List.contains_iff_mem.mp isName)] at named
    cases named

private theorem layered_of_isRead (texts : HaveTextKeys entries) (known : name ∈ names)
    {result : Option Text} (read : IsRead (overEnvironment environment entries) name result) :
    Layered environment entries name result := by
  unfold IsRead at read
  rw [lookup_overEnvironment texts, if_pos known] at read
  cases own : lookupLast name entries with
  | some value =>
      rw [own] at read
      exact .given own read
  | none =>
      rw [own] at read
      cases set : environment.lastNamed? (variableOf name) with
      | some value =>
          rw [set] at read
          cases read
          exact .inherited own set
      | none =>
          rw [set] at read
          cases read
          exact .default own set

/-! ## Data in a place -/

/-- Entries without reserved keys are put over the environment, and then they are checked. -/
theorem ofWritten_eq (tree : FileTree) (place : Option Text)
    (free : ∀ name ∈ reservedNames, Value.lookup name entries = none) :
    ofWritten tree environment ⟨entries, place⟩ =
      match check (overEnvironment environment entries) with
      | .accepted settings _ _ => .ok settings
      | .refused problems =>
        .error
          (Written.failure ⟨entries, place⟩ (overEnvironment environment entries) problems) := by
  rw [ofWritten, search_eq tree environment free]
  rfl

private theorem exists_ofWritten_eq_ok (tree : FileTree) (place : Option Text)
    (free : ∀ name ∈ reservedNames, Value.lookup name entries = none) (texts : HaveTextKeys entries)
    (fit : AreSettings entries) :
    ∃ settings, ofWritten tree environment ⟨entries, place⟩ = .ok settings ∧
      ∀ name ∈ names, Layered environment entries name (settings.valueOf name) := by
  have accepted : (check (overEnvironment environment entries)).isAccepted :=
    isAccepted_overEnvironment texts fit
  have read : (check (overEnvironment environment entries)).Ensures _ := ensures_check
  rw [ofWritten_eq tree place free]
  cases found : check (overEnvironment environment entries) with
  | refused problems =>
      rw [found] at accepted
      cases accepted
  | accepted settings fields isExact =>
      refine ⟨settings, rfl, fun name known => ?_⟩
      exact layered_of_isRead texts known (read.of_accepted found name known)

private theorem exists_ofWritten_eq_configuration (tree : FileTree)
    (free : ∀ name ∈ reservedNames, Value.lookup name entries = none) (texts : HaveTextKeys entries)
    (there : lookupLast name entries = some value)
    (unfit : name ∉ names ∨ settingOf? name value = none) :
    ∃ message, ofWritten tree environment ⟨entries, some place⟩ =
      .error (.fault (.configuration message (some place) none)) := by
  have refused : ¬(check (overEnvironment environment entries)).isAccepted :=
    not_isAccepted_overEnvironment texts there unfit
  rw [ofWritten_eq tree _ free]
  cases found : check (overEnvironment environment entries) with
  | accepted settings fields isExact =>
      rw [found] at refused
      exact absurd rfl refused
  | refused problems => exact ⟨_, rfl⟩

private theorem all_isTextKey_iff : entries.all isTextKey ↔ HaveTextKeys entries := by
  rw [List.all_eq_true]
  refine forall₂_congr fun entry _ => ?_
  obtain ⟨key, value⟩ := entry
  cases key <;> simp [isTextKey]

private theorem ofData_eq {data : Value}
    (expands : Expansion.expandData environment data = .ok (.map entries)) :
    Written.ofData environment place data =
      if entries.all isTextKey then .ok ⟨entries, some place⟩
        else .error (.misfit .keyNotText) := by
  rw [Written.ofData, expands]
  rfl

/-- What comes of data in a place. What keeps it from being expanded is found first, then that
it is no mapping of texts, and then that an entry is no setting. -/
structure IsOutcome (environment : Environment) (place : Text) (data : Value)
    (outcome : Except Failure Settings) : Prop where
  hindered : ∀ {obstacle}, Expansion.expandData environment data = .error obstacle →
    outcome = .error (obstacleFailure obstacle)
  notMapping : ∀ {expanded}, Expansion.expandData environment data = .ok expanded →
    (∀ entries, expanded ≠ .map entries) →
    outcome = .error (.misfit (.notMapping expanded.fullKindName))
  keyNotText : ∀ {entries}, Expansion.expandData environment data = .ok (.map entries) →
    ¬HaveTextKeys entries → outcome = .error (.misfit .keyNotText)
  refused : ∀ {entries name value}, Expansion.expandData environment data = .ok (.map entries) →
    HaveTextKeys entries → lookupLast name entries = some value →
    name ∉ names ∨ settingOf? name value = none →
    ∃ message, outcome = .error (.fault (.configuration message (some place) none))
  accepted : ∀ {entries}, Expansion.expandData environment data = .ok (.map entries) →
    HaveTextKeys entries → AreSettings entries →
    ∃ settings, outcome = .ok settings ∧
      ∀ name ∈ names, Layered environment entries name (settings.valueOf name)

/-- Data has no reserved keys once references are replaced. -/
def IsFree (environment : Environment) (data : Value) : Prop :=
  ∀ entries, Expansion.expandData environment data = .ok (.map entries) →
    ∀ name ∈ reservedNames, Value.lookup name entries = none

private theorem isOutcome_ofData (tree : FileTree) (place : Text) {data : Value}
    (free : IsFree environment data) :
    IsOutcome environment place data
      (Written.ofData environment place data >>= ofWritten tree environment) where
  hindered hinders := by
    rw [Written.ofData, hinders]
    rfl
  notMapping {expanded} expands other := by
    rw [Written.ofData, expands]
    cases expanded with
    | map entries => exact absurd rfl (other entries)
    | _ => rfl
  keyNotText expands other := by
    rw [ofData_eq expands, if_neg (mt all_isTextKey_iff.mp other)]
    rfl
  refused expands texts there unfit := by
    rw [ofData_eq expands, if_pos (all_isTextKey_iff.mpr texts)]
    exact exists_ofWritten_eq_configuration tree (free _ expands) texts there unfit
  accepted expands texts fit := by
    rw [ofData_eq expands, if_pos (all_isTextKey_iff.mpr texts)]
    exact exists_ofWritten_eq_ok tree (some place) (free _ expands) texts fit

end

/-! ## The command line -/

section

variable {surroundings : CommandLine.Surroundings} {arguments : List Text} {source : Text}
  {directory asked : Option Text}

private theorem valueOf_withArguments (settings : Settings) (name : Text) :
    (settings.withArguments source directory).valueOf name =
      if name = "source" then some source
      else if name = "output" then (directory.filter (· != [])).or (settings.valueOf name)
      else settings.valueOf name := by
  by_cases ofSource : name = "source"
  · rw [valueOf, if_pos ofSource, if_pos ofSource]
    rfl
  · rw [if_neg ofSource, valueOf, valueOf, if_neg ofSource, if_neg ofSource]
    by_cases ofOutput : name = "output"
    · rw [if_pos ofOutput, if_pos ofOutput, if_pos ofOutput]
      obtain _ | ⟨_ | _⟩ := directory <;> rfl
    · rw [if_neg ofOutput, if_neg ofOutput, if_neg ofOutput]
      rfl

/-- An outcome has the files and the messages to which a run has come. -/
def HasProgress (outcome : CommandLine.Outcome) (progress : Progress DirectoryFiles) : Prop :=
  outcome.tree = progress.store.tree ∧ outcome.log = progress.log

private theorem HasProgress.reporting {outcome : CommandLine.Outcome}
    {progress : Progress DirectoryFiles} (texts : List Text)
    (has : HasProgress outcome progress) :
    HasProgress (outcome.reporting texts) progress := by
  rw [CommandLine.Outcome.reporting]
  split <;> exact has

private theorem exists_run_eq_runGenerate (surroundings : CommandLine.Surroundings)
    (request : (CommandLine.Invocation.ofArguments arguments).request =
      .generate source directory asked) :
    ∃ level, CommandLine.run surroundings arguments =
      CommandLine.runGenerate surroundings level source directory asked := by
  rw [CommandLine.run, request]
  exact ⟨_, rfl⟩

/-- A run generates what its settings ask for, after the command line has had its say. -/
theorem hasProgress_run {settings : Settings}
    (request : (CommandLine.Invocation.ofArguments arguments).request =
      .generate source directory asked)
    (found : find surroundings.tree surroundings.environment asked = .ok settings) :
    HasProgress (CommandLine.run surroundings arguments)
      (surroundings.generate (settings.withArguments source directory)).2 := by
  obtain ⟨level, runs⟩ := exists_run_eq_runGenerate surroundings request
  rw [runs, CommandLine.runGenerate, found]
  dsimp only
  split
  · split_ifs
    · exact ⟨rfl, rfl⟩
    · exact HasProgress.reporting _ ⟨rfl, rfl⟩
  · split_ifs
    · exact ⟨rfl, rfl⟩
    · exact HasProgress.reporting _ ⟨rfl, rfl⟩

private theorem run_fails {failure : Failure}
    (request : (CommandLine.Invocation.ofArguments arguments).request =
      .generate source directory asked)
    (fails : find surroundings.tree surroundings.environment asked = .error failure) :
    (CommandLine.run surroundings arguments).exitCode = CommandLine.failureCode ∧
      (CommandLine.run surroundings arguments).tree = surroundings.tree := by
  obtain ⟨level, runs⟩ := exists_run_eq_runGenerate surroundings request
  rw [runs, CommandLine.runGenerate, fails]
  dsimp only
  rw [CommandLine.Outcome.reporting]
  split <;> exact ⟨rfl, rfl⟩

end

/-! ## Runs -/

/-- One place decides, the first that says anything, or there is none. What it says is put over the
environment, and a run puts its arguments over this. -/
theorem find_layered (tree : FileTree) (environment : Environment) (asked : Option Text) :
    ((∃ place : Place, place.IsReached tree asked ∧ place.data? tree ≠ .ok none) ∨
      ∀ place ∈ places asked, place.data? tree = .ok none) ∧
    (∀ place : Place, place.IsReached tree asked →
      (∀ failure, place.data? tree = .error failure →
        find tree environment asked = .error failure) ∧
      ∀ data, place.data? tree = .ok (some data) → IsFree environment data →
        IsOutcome environment (place.shown tree) data (find tree environment asked)) ∧
    ((∀ place ∈ places asked, place.data? tree = .ok none) →
      ∃ settings, find tree environment asked = .ok settings ∧
        ∀ name ∈ names, Layered environment [] name (settings.valueOf name)) ∧
    ∀ (web : Network.Web) (arguments : List Text) (source : Text) (directory : Option Text),
      (CommandLine.Invocation.ofArguments arguments).request = .generate source directory asked →
      (∀ failure, find tree environment asked = .error failure →
        (CommandLine.run ⟨tree, environment, web⟩ arguments).exitCode = CommandLine.failureCode ∧
        (CommandLine.run ⟨tree, environment, web⟩ arguments).tree = tree) ∧
      ∀ settings, find tree environment asked = .ok settings →
        ∃ used : Settings,
          (∀ name ∈ names, used.valueOf name =
            if name = "source" then some source
            else if name = "output" then (directory.filter (· != [])).or (settings.valueOf name)
            else settings.valueOf name) ∧
          HasProgress (CommandLine.run ⟨tree, environment, web⟩ arguments)
            (CommandLine.Surroundings.generate ⟨tree, environment, web⟩ used).2 := by
  refine ⟨exists_isReached tree asked, fun place reached => ⟨?_, ?_⟩, fun silent => ?_, ?_⟩
  · intro failure fails
    rw [find, (written_of_isReached reached).1 failure fails]
    rfl
  · intro data found free
    rw [find, (written_of_isReached reached).2 data found]
    exact isOutcome_ofData tree _ free
  · rw [find, written_of_silent silent]
    have free : ∀ name ∈ reservedNames, Value.lookup name [] = none := fun _ _ => rfl
    exact exists_ofWritten_eq_ok tree none free nofun nofun
  · intro web arguments source directory request
    refine ⟨fun failure fails => run_fails request fails, fun settings found => ?_⟩
    exact ⟨settings.withArguments source directory,
      fun name _ => valueOf_withArguments settings name, hasProgress_run request found⟩

/-! ## A file that is asked for -/

/-- A working directory with a settings file. -/
def settingsFile (content : String) : FileTree where
  home := ["w"]
  entries := [(["w"], .directory), (["w", "c.json"], .file (content.toList.map Char.toUInt8))]

private theorem data?_asked {tree : FileTree} {path : Text} {text : List Char} {value : Value}
    (isThere : contains tree (Path.ofText path) = .ok true)
    (readable : tree.readText (Path.ofText path) = .ok text)
    (json : (Path.ofText path).hasSuffix [".json"]) (valid : Json.read text = .ok value) :
    (Place.asked path).data? tree = .ok (some value) := by
  have read : readFile tree (Path.ofText path) = .ok value := by
    rw [readFile, readable]
    change (if (Path.ofText path).hasSuffix [".json"] then _ else _) = _
    rw [if_pos json, valid]
    rfl
  rw [Place.data?, Place.path, isThere]
  change some <$> (readFile tree (Path.ofText path)).mapError Failure.cause = _
  rw [read]
  rfl

theorem find_layered_file :
    let tree := settingsFile "\x7b\"source\": null, \"output\": \"$\x7bD\x7d/x\"\x7d"
    let environment : Environment :=
      [("D", "g"), ("APISTUB_OUTPUT", "e"), ("Apistub_Api_File", "a.ts")]
    let entries := [(Value.text "source", Value.null), (.text "output", .text "g/x")]
    ∃ settings : Settings, find tree environment (some "c.json") = .ok settings ∧
      (∀ name ∈ names, Layered environment entries name (settings.valueOf name)) ∧
      ∃ used : Settings,
        (∀ name ∈ names, used.valueOf name =
          if name = "source" then some (Text.ofString "s.json")
          else if name = "output" then some (Text.ofString "out") else settings.valueOf name) ∧
        HasProgress
          (CommandLine.run ⟨tree, environment, Network.Web.unreachable⟩
            ["get", "s.json", "-dout", "-cc.json"])
          (CommandLine.Surroundings.generate ⟨tree, environment,
            Network.Web.unreachable⟩ used).2 := by
  intro tree environment entries
  obtain ⟨-, decides, -, runs⟩ := find_layered tree environment (some "c.json")
  have isThere : contains tree (Path.ofText "c.json") = .ok true := rfl
  have readable : tree.readText (Path.ofText "c.json") =
      .ok "\x7b\"source\": null, \"output\": \"$\x7bD\x7d/x\"\x7d".toList := rfl
  have valid : Json.read "\x7b\"source\": null, \"output\": \"$\x7bD\x7d/x\"\x7d".toList =
      .ok (.map [(.text "source", .null), (.text "output", .text "$\x7bD\x7d/x")]) := rfl
  have references : Expansion.parts (· != []) "$\x7bD\x7d/x" =
      [.reference ⟨"D", none⟩, .plain '/', .plain 'x'] := by cbv
  have expands : Expansion.expandData environment
      (.map [(.text "source", .null), (.text "output", .text "$\x7bD\x7d/x")]) =
        .ok (.map entries) := by
    simp only [Expansion.expandData, Expansion.expandEntries, Expansion.expand, references]
    rfl
  have free : IsFree environment
      (.map [(.text "source", .null), (.text "output", .text "$\x7bD\x7d/x")]) := by
    intro others same
    cases expands.symm.trans same
    decide +kernel
  have texts : HaveTextKeys entries :=
    List.forall_mem_cons.mpr ⟨⟨_, rfl⟩, List.forall_mem_singleton.mpr ⟨_, rfl⟩⟩
  have fit : AreSettings entries := by
    intro name value there
    change (if Text.ofString "output" = name then _ else
      if Text.ofString "source" = name then _ else _) = _ at there
    split_ifs at there with ofOutput ofSource
    · cases there
      exact ⟨ofOutput ▸ by decide, rfl⟩
    · cases there
      exact ⟨ofSource ▸ by decide, ofSource ▸ rfl⟩
    · cases there
  have ofFile := (decides (.asked "c.json") (isReached_asked tree (by decide))).2 _
    (data?_asked isThere readable rfl valid) free
  obtain ⟨settings, found, layers⟩ := ofFile.accepted expands texts fit
  obtain ⟨used, ofUsed, has⟩ := (runs Network.Web.unreachable ["get", "s.json", "-dout", "-cc.json"]
    "s.json" (some "out") rfl).2 settings found
  exact ⟨settings, found, layers, used, ofUsed, has⟩

/-- A key that says how to search is no setting, and yet it is not refused. -/
theorem find_reservedKey :
    let tree := settingsFile "\x7b\"_env_prefix\": \"X\"\x7d"
    (Place.asked "c.json").data? tree = .ok (some (.map [(.text "_env_prefix", .text "X")])) ∧
      Text.ofString "_env_prefix" ∉ names ∧ find tree [] (some "c.json") = .ok {} := by
  intro tree
  have isThere : contains tree (Path.ofText "c.json") = .ok true := rfl
  have readable : tree.readText (Path.ofText "c.json") =
      .ok "\x7b\"_env_prefix\": \"X\"\x7d".toList := rfl
  have valid : Json.read "\x7b\"_env_prefix\": \"X\"\x7d".toList =
      .ok (.map [(.text "_env_prefix", .text "X")]) := rfl
  have ofFile := data?_asked isThere readable rfl valid
  have expands : Expansion.expandData [] (.map [(.text "_env_prefix", .text "X")]) =
      .ok (.map [(.text "_env_prefix", .text "X")]) := by cbv
  refine ⟨ofFile, by decide, ?_⟩
  have reached : (Place.asked "c.json").IsReached tree (some "c.json") :=
    isReached_asked tree (by decide)
  rw [find, (written_of_isReached reached).2 _ ofFile, ofData_eq expands]
  rfl

end ApiClient.Settings
