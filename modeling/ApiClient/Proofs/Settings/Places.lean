import ApiClient.Proofs.Agreement
import ApiClient.Settings.Discovery

/-! Where settings are written. Places are looked at one after the other, and the first one that
says anything is the only one that counts, also if what it says is wrong. -/

namespace ApiClient.Settings

/-- Where settings can be written: at a path that is asked for, or in the working directory, in a
settings file or in the description of a project. -/
inductive Place where
  | asked (path : Text)
  | file (name : Text)
  | project
  deriving DecidableEq, Repr

/-- The places for a run, in the order in which they are looked at. -/
def places : Option Text → List Place
  | none | some [] => fileNames.map .file ++ [.project]
  | some path => [.asked path]

namespace Place

def path (tree : FileTree) : Place → Path
  | .asked path => Path.ofText path
  | .file name => (⟨.single, tree.home⟩ : Path).join (Path.ofText name)
  | .project => (⟨.single, tree.home⟩ : Path).join (Path.ofText projectFileName)

/-- A place as messages name it. -/
def shown (tree : FileTree) : Place → Text
  | .asked path => path
  | place => (place.path tree).text

/-- The data at a place. Nothing is said by a file that is not there, unless it is asked for,
nor by a project that has no table for this tool. -/
def data? (tree : FileTree) (place : Place) : Except Failure (Option Value) := do
  if ← contains tree (place.path tree) then
    match place with
    | .project =>
      let text ← (tree.readText (place.path tree)).mapError Failure.cause
      let project ← (Toml.read text).mapError fun fault => Failure.cause (.toml fault)
      toolData project
    | _ => some <$> (readFile tree (place.path tree)).mapError Failure.cause
  else
    match place with
    | .asked path => throw (.fault (.configuration "Configuration file not found" (some path) none))
    | _ => return none

/-- A place is reached if those before it say nothing. -/
def IsReached (tree : FileTree) (asked : Option Text) (place : Place) : Prop :=
  ∃ before after, places asked = before ++ place :: after ∧
    ∀ other ∈ before, other.data? tree = .ok none

end Place

/-- What is written in the first place that says anything. -/
def firstWritten (tree : FileTree) (environment : Environment) :
    List Place → Except Failure Written
  | [] => .ok {}
  | place :: rest => do
    match ← place.data? tree with
    | some data => Written.ofData environment (place.shown tree) data
    | none => firstWritten tree environment rest

section

variable {tree : FileTree} {environment : Environment} {asked : Option Text} {place : Place}

/-- A file says something if it is there. -/
theorem ofFile_eq (path : Path) (shown : Text) (otherwise : Except Failure Written) :
    (some <$> (readFile tree path).mapError Failure.cause >>= fun data =>
      match data with
      | some data => Written.ofData environment shown data
      | none => otherwise) = ofFile tree environment path shown := by
  rw [ofFile]
  cases readFile tree path <;> rfl

private theorem firstWritten_file (name : Text) (rest : List Place) :
    firstWritten tree environment (.file name :: rest) =
      contains tree ((Place.file name).path tree) >>= fun isThere =>
        if isThere then
          ofFile tree environment ((Place.file name).path tree) ((Place.file name).shown tree)
        else firstWritten tree environment rest := by
  rw [firstWritten]
  unfold Place.data?
  cases contains tree ((Place.file name).path tree) with
  | error failure => rfl
  | ok isThere =>
      cases isThere with
      | false => rfl
      | true => exact ofFile_eq _ _ _

private theorem firstWritten_asked (path : Text) :
    firstWritten tree environment [.asked path] =
      contains tree (Path.ofText path) >>= fun isThere =>
        if isThere then ofFile tree environment (Path.ofText path) path
        else .error (.fault (.configuration "Configuration file not found" (some path) none)) := by
  rw [firstWritten]
  unfold Place.data?
  rw [Place.path]
  cases contains tree (Path.ofText path) with
  | error failure => rfl
  | ok isThere =>
      cases isThere with
      | false => rfl
      | true => exact ofFile_eq _ _ _

private theorem firstWritten_project :
    firstWritten tree environment [.project] =
      contains tree (Place.project.path tree) >>= fun isThere =>
        if isThere then ofProject tree environment (Place.project.path tree) else .ok {} := by
  rw [firstWritten, Place.data?]
  cases contains tree (Place.project.path tree) with
  | error failure => rfl
  | ok isThere =>
      cases isThere with
      | false => rfl
      | true =>
          change _ = ofProject tree environment _
          rw [ofProject]
          cases tree.readText (Place.project.path tree) with
          | error cause => rfl
          | ok text =>
              dsimp only [bind, Except.bind, Except.mapError]
              cases Toml.read text with
              | error fault => rfl
              | ok project => cases toolData project <;> rfl

private theorem discovered_eq_firstWritten (names : List Text) :
    discovered tree environment ⟨.single, tree.home⟩ names =
      firstWritten tree environment (names.map .file ++ [.project]) := by
  induction names with
  | nil => exact firstWritten_project.symm
  | cons name others induction =>
      rw [List.map_cons, List.cons_append, firstWritten_file, ← induction]
      rfl

private theorem written_eq_firstWritten :
    written tree environment asked = firstWritten tree environment (places asked) := by
  cases asked with
  | none => exact discovered_eq_firstWritten fileNames
  | some path =>
      cases path with
      | nil => exact discovered_eq_firstWritten fileNames
      | cons c path => exact (firstWritten_asked (c :: path)).symm

theorem isReached_asked (tree : FileTree) {path : Text} (given : path ≠ []) :
    (Place.asked path).IsReached tree (some path) := by
  cases path with
  | nil => exact absurd rfl given
  | cons c path => exact ⟨[], [], rfl, List.forall_mem_nil _⟩

theorem exists_isReached (tree : FileTree) (asked : Option Text) :
    (∃ place : Place, place.IsReached tree asked ∧ place.data? tree ≠ .ok none) ∨
      ∀ place ∈ places asked, place.data? tree = .ok none := by
  unfold Place.IsReached
  generalize places asked = all
  induction all with
  | nil => exact .inr nofun
  | cons place rest induction =>
      by_cases here : place.data? tree = .ok none
      · obtain ⟨other, ⟨before, after, split, silent⟩, speaks⟩ | silent := induction
        · refine .inl ⟨other, ⟨place :: before, after, ?_, ?_⟩, speaks⟩
          · rw [split, List.cons_append]
          · exact List.forall_mem_cons.mpr ⟨here, silent⟩
        · exact .inr (List.forall_mem_cons.mpr ⟨here, silent⟩)
      · exact .inl ⟨place, ⟨[], rest, rfl, nofun⟩, here⟩

/-- The first place that says anything is all that counts. -/
theorem written_of_isReached (reached : place.IsReached tree asked) :
    (∀ failure, place.data? tree = .error failure →
      written tree environment asked = .error failure) ∧
    ∀ data, place.data? tree = .ok (some data) →
      written tree environment asked = Written.ofData environment (place.shown tree) data := by
  obtain ⟨before, after, split, silent⟩ := reached
  rw [written_eq_firstWritten, split]
  clear split
  induction before with
  | nil =>
      constructor
      · intro failure fails
        rw [List.nil_append, firstWritten, fails]
        rfl
      · intro data found
        rw [List.nil_append, firstWritten, found]
        rfl
  | cons other before induction =>
      obtain ⟨here, others⟩ := List.forall_mem_cons.mp silent
      rw [List.cons_append, firstWritten, here]
      exact induction others

theorem written_of_silent (silent : ∀ place ∈ places asked, place.data? tree = .ok none) :
    written tree environment asked = .ok {} := by
  rw [written_eq_firstWritten]
  generalize places asked = all at silent
  induction all with
  | nil => rfl
  | cons place rest induction =>
      obtain ⟨here, others⟩ := List.forall_mem_cons.mp silent
      rw [firstWritten, here]
      exact induction others

end

end ApiClient.Settings
