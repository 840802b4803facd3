import ApiClient.Proofs.Document.Changes
import ApiClient.Proofs.Document.Check
import ApiClient.Settings.Search

/-! Layers of settings. Entries that are put over others hide those of the same names, and
variables of the environment are found in any letter case. Data that does not tell how to search
is put over the environment, and nothing else is searched. -/

namespace ApiClient

/-! ## Entries over others -/

section

variable {key name : Text} {value : Value} {entries upper : List (Value × Value)}

/-- Whether the keys of entries are texts. -/
def HaveTextKeys (entries : List (Value × Value)) : Prop :=
  ∀ entry ∈ entries, ∃ name, entry.1 = .text name

theorem isSome_lookup_of_mem (member : (.text name, value) ∈ entries) :
    (Value.lookup name entries).isSome := by
  obtain ⟨before, after, rfl⟩ := List.append_of_mem member
  rw [lookup_append, Value.lookup, if_pos rfl]
  cases Value.lookup name before <;> rfl

private theorem haveTextKeys_put (texts : HaveTextKeys entries) :
    HaveTextKeys (Value.put (.text name) value entries) := by
  induction entries with
  | nil => exact List.forall_mem_singleton.mpr ⟨name, rfl⟩
  | cons entry rest induction =>
      obtain ⟨here, others⟩ := List.forall_mem_cons.mp texts
      rw [Value.put]
      split
      · exact List.forall_mem_cons.mpr ⟨here, others⟩
      · exact List.forall_mem_cons.mpr ⟨here, induction others⟩

theorem haveTextKeys_overlaid (texts : HaveTextKeys entries) (others : HaveTextKeys upper) :
    HaveTextKeys (Settings.overlaid entries upper) := by
  induction upper generalizing entries with
  | nil => exact texts
  | cons entry upper induction =>
      obtain ⟨⟨name, named⟩, later⟩ := List.forall_mem_cons.mp others
      obtain ⟨_, value⟩ := entry
      cases named
      exact induction (haveTextKeys_put texts) later

/-- What is put later counts more, and most of all what is put last. -/
theorem lookup_overlaid (texts : HaveTextKeys upper) :
    Value.lookup key (Settings.overlaid entries upper) =
      (Value.lookup key upper.reverse).or (Value.lookup key entries) := by
  induction upper generalizing entries with
  | nil => rfl
  | cons entry upper induction =>
      obtain ⟨⟨name, named⟩, others⟩ := List.forall_mem_cons.mp texts
      obtain ⟨_, value⟩ := entry
      cases named
      have overlaid_cons : Settings.overlaid entries ((.text name, value) :: upper) =
          Settings.overlaid (Value.put (.text name) value entries) upper := rfl
      rw [overlaid_cons, induction others, List.reverse_cons, lookup_append, lookup_put,
        Value.lookup]
      cases Value.lookup key upper.reverse with
      | some found => rfl
      | none => split <;> rfl

/-- Entries for some of several names. -/
theorem lookup_filterMap (given : Text → Option Value) (names : List Text) :
    Value.lookup key (names.filterMap fun name =>
      (given name).map fun value => (Value.text name, value)) =
        if key ∈ names then given key else none := by
  induction names with
  | nil => rfl
  | cons name names induction =>
      rw [List.filterMap_cons]
      by_cases same : name = key
      · rw [same, if_pos List.mem_cons_self]
        cases found : given key with
        | none =>
            rw [Option.map_none]
            exact induction.trans (by rw [found, ite_self])
        | some value => exact if_pos rfl
      · simp only [List.mem_cons, Ne.symm same, false_or]
        rw [← induction]
        cases given name with
        | none => rfl
        | some value => exact if_neg same

end

/-! ## The environment -/

/-- The value of the last variable that has a name, in any letter case. -/
def Environment.lastNamed? (name : Text) (environment : Environment) : Option Text :=
  (environment.reverse.find? fun entry => Text.lowercased entry.1 == Text.lowercased name).map (·.2)

namespace Settings

/-- The variable of a setting. -/
def variableOf (name : Text) : Text := "APISTUB_" ++ name

/-- The settings that the environment gives. -/
def inherited (environment : Environment) : List (Value × Value) :=
  let search : Search := {}
  search.found (search.counted (environment.map fun (name, value) => ⟨name, some value⟩))

section

variable {name key : Text}

private theorem find?_entry_cons (entry : VariableFile.Entry) (listing : List VariableFile.Entry) :
    (entry :: listing).find? (·.name == name) =
      if entry.name = name then some entry else listing.find? (·.name == name) := by
  rw [List.find?_cons]
  by_cases same : entry.name = name
  · rw [if_pos same, beq_iff_eq.mpr same]
  · rw [if_neg same, beq_false_of_ne same]

private theorem find?_put (entry : VariableFile.Entry) (listing : List VariableFile.Entry) :
    (VariableFile.put entry listing).find? (·.name == name) =
      if entry.name = name then some entry else listing.find? (·.name == name) := by
  induction listing with
  | nil => exact find?_entry_cons entry []
  | cons other rest induction =>
      rw [VariableFile.put, find?_entry_cons]
      by_cases hidden : other.name = entry.name
      · rw [if_pos hidden, find?_entry_cons, hidden]
        by_cases same : entry.name = name
        · rw [if_pos same, if_pos same]
        · rw [if_neg same, if_neg same, if_neg same]
      · rw [if_neg hidden, find?_entry_cons, induction]
        by_cases same : other.name = name
        · have apart : entry.name ≠ name := fun equal => hidden (same.trans equal.symm)
          rw [if_pos same, if_neg apart, if_pos same]
        · rw [if_neg same, if_neg same]

private theorem lastNamed?_cons (entry : Text × Text) (environment : Environment) :
    Environment.lastNamed? name (entry :: environment) =
      (environment.lastNamed? name).or
        (if Text.lowercased entry.1 = Text.lowercased name then some entry.2 else none) := by
  rw [Environment.lastNamed?, Environment.lastNamed?, List.reverse_cons, List.find?_append,
    List.find?_singleton]
  cases environment.reverse.find? fun entry => Text.lowercased entry.1 == Text.lowercased name with
  | some found => rfl
  | none =>
      by_cases same : Text.lowercased entry.1 = Text.lowercased name <;> simp [same]

/-- Variables are kept under lower-case names, and a later one takes the place of an earlier one. -/
theorem find?_foldl_put (environment : Environment) (done : List VariableFile.Entry) :
    ((environment.foldl (fun done entry =>
      VariableFile.put ⟨Text.lowercased entry.1, some entry.2⟩ done) done).find?
        (·.name == Text.lowercased name)).bind (·.value) =
      (environment.lastNamed? name).or
        ((done.find? (·.name == Text.lowercased name)).bind (·.value)) := by
  induction environment generalizing done with
  | nil => rfl
  | cons entry environment induction =>
      rw [List.foldl_cons, induction, find?_put, lastNamed?_cons]
      cases Environment.lastNamed? name environment with
      | some value => rfl
      | none =>
          dsimp only
          split <;> rfl

private theorem inherited_eq (environment : Environment) :
    inherited environment = names.filterMap fun name =>
      ((environment.lastNamed? (variableOf name)).map Value.text).map fun value =>
        (Value.text name, value) := by
  let search : Search := {}
  let counted := search.counted (environment.map fun (name, value) => ⟨name, some value⟩)
  have ofEnvironment (name : Text) : ((counted.find? (·.name == search.variableName name)).bind
      (·.value)) = environment.lastNamed? (variableOf name) := by
    change ((List.foldl _ [] (environment.map _)).find? _).bind _ = _
    rw [List.foldl_map]
    exact (find?_foldl_put environment []).trans (Option.or_none)
  unfold inherited Search.found
  refine congrArg (List.filterMap · names) (funext fun name => ?_)
  rw [← ofEnvironment]
  change (counted.find? (·.name == search.variableName name) >>= _) = _
  cases counted.find? (·.name == search.variableName name) with
  | none => rfl
  | some entry =>
      obtain ⟨_, value⟩ := entry
      cases value <;> rfl

theorem haveTextKeys_inherited (environment : Environment) :
    HaveTextKeys (inherited environment) := by
  intro entry member
  rw [inherited_eq, List.mem_filterMap] at member
  obtain ⟨name, _, found⟩ := member
  obtain ⟨value, _, rfl⟩ := Option.map_eq_some_iff.mp found
  exact ⟨name, rfl⟩

theorem lookup_inherited (environment : Environment) :
    Value.lookup key (inherited environment).reverse =
      if key ∈ names then (environment.lastNamed? (variableOf key)).map .text else none := by
  rw [inherited_eq, ← List.filterMap_reverse, lookup_filterMap, if_congr List.mem_reverse rfl rfl]

end

/-! ## The search -/

/-- The keys that give no settings. They say how to search for settings. -/
def reservedNames : List Text := "__pydantic_self__" :: parameterNames

private theorem partition_isParameter {entries : List (Value × Value)}
    (free : ∀ name ∈ reservedNames, Value.lookup name entries = none) :
    entries.partition isParameter = ([], entries) := by
  have plain : ∀ entry ∈ entries, isParameter entry = false := by
    rintro ⟨key, value⟩ member
    cases key with
    | text name =>
        rw [isParameter, Bool.eq_false_iff]
        intro reserved
        have there := isSome_lookup_of_mem member
        rw [free name (List.mem_cons_of_mem _ (List.contains_iff_mem.mp reserved))] at there
        cases there
    | _ => rfl
  rw [List.partition_eq_filter_filter]
  refine Prod.ext (List.filter_eq_nil_iff.mpr ?_) (List.filter_eq_self.mpr ?_)
  · exact fun entry member => Bool.eq_false_iff.mp (plain entry member)
  · exact fun entry member => by simp [plain entry member]

/-- Without reserved keys, data is put over the environment. -/
theorem search_eq (tree : FileTree) (environment : Environment) {entries : List (Value × Value)}
    (free : ∀ name ∈ reservedNames, Value.lookup name entries = none) :
    search tree environment entries =
      .ok (overlaid (overlaid [] (inherited environment)) entries) := by
  rw [search, partition_isParameter free]
  dsimp only
  rw [free _ List.mem_cons_self]
  rfl

end Settings

end ApiClient
