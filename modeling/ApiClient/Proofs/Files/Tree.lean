import ApiClient.Files.Tree
import ApiClient.Proofs.Agreement

/-! File trees. Where a path leads depends on directories alone, so that a new file, or a new
directory, leaves every path as it is that could be followed before. -/

namespace ApiClient

namespace FileTree

/-! ## Entries -/

private theorem findEntry_putEntry_self (place : List Text) (entry : FileEntry)
    (entries : List (List Text × FileEntry)) :
    findEntry place (putEntry place entry entries) = some entry := by
  induction entries with
  | nil => simp [putEntry, findEntry]
  | cons first rest induction =>
      rw [putEntry]
      split
      · simp [findEntry]
      · rename_i other
        simp [findEntry, other, induction]

private theorem findEntry_putEntry_of_ne {place other : List Text} (different : place ≠ other)
    (entry : FileEntry) (entries : List (List Text × FileEntry)) :
    findEntry other (putEntry place entry entries) = findEntry other entries := by
  induction entries with
  | nil => simp [putEntry, findEntry, different]
  | cons first rest induction =>
      rw [putEntry]
      split
      · rename_i same
        simp [findEntry, same, different]
      · simp [findEntry, induction]

variable {tree : FileTree}

theorem entryAt_put_self {place : List Text} (belowRoot : place ≠ []) (entry : FileEntry) :
    (tree.put place entry).entryAt place = some entry := by
  cases place with
  | nil => exact absurd rfl belowRoot
  | cons name rest => exact findEntry_putEntry_self _ _ _

theorem entryAt_put_of_ne {place other : List Text} (different : place ≠ other)
    (entry : FileEntry) : (tree.put place entry).entryAt other = tree.entryAt other := by
  cases other with
  | nil => rfl
  | cons name rest => exact findEntry_putEntry_of_ne different _ _

/-! ## Following paths -/

theorem follow_append (start segments further : List Text) :
    tree.follow start (segments ++ further) =
      tree.follow start segments >>= fun place => tree.follow place further := by
  induction segments generalizing start with
  | nil => rfl
  | cons segment rest induction =>
      rw [List.cons_append, follow, follow]
      cases tree.entryAt start with
      | none => rfl
      | some entry =>
          cases entry with
          | file content => rfl
          | directory =>
              dsimp only
              split
              · exact induction _
              · split
                · rfl
                · exact induction _

private theorem follow_put {start segments place target : List Text} {entry : FileEntry}
    (free : tree.entryAt target ≠ some .directory)
    (found : tree.follow start segments = .ok place) :
    (tree.put target entry).follow start segments = .ok place := by
  induction segments generalizing start with
  | nil => exact found
  | cons segment rest induction =>
      rw [follow] at found ⊢
      cases there : tree.entryAt start with
      | none =>
          rw [there] at found
          cases found
      | some kind =>
          rw [there] at found
          cases kind with
          | file content => cases found
          | directory =>
              have different : target ≠ start := by
                rintro rfl
                exact free there
              rw [entryAt_put_of_ne different, there]
              dsimp only at found ⊢
              split at found
              · rename_i upward
                rw [if_pos upward]
                exact induction found
              · rename_i downward
                rw [if_neg downward]
                split at found
                · cases found
                · rename_i short
                  rw [if_neg short]
                  exact induction found

theorem locate_put {path : Path} {place target : List Text} {entry : FileEntry}
    (free : tree.entryAt target ≠ some .directory) (found : tree.locate path = .ok place) :
    (tree.put target entry).locate path = .ok place := by
  rw [locate] at found ⊢
  split at found
  · cases found
  · rename_i fits
    rw [if_neg fits]
    exact follow_put free found

/-! ## Access -/

theorem attempt_eq_ok_iff {α : Type} {path : Path} {use : Except Refusal α} {value : α} :
    attempt path use = .ok value ↔ nameFault? path.text = none ∧ use = .ok value := by
  rw [attempt]
  cases nameFault? path.text with
  | some fault => simp
  | none => cases use <;> simp [Except.mapError]

theorem entryUnder_eq_ok_iff {path : Path} {entry : Option FileEntry} :
    tree.entryUnder path = .ok entry ↔
      ∃ place, tree.locate path = .ok place ∧ tree.entryAt place = entry := by
  rw [entryUnder, bind_eq_ok_iff]
  exact exists_congr fun place => and_congr_right fun _ => pure_eq_ok_iff

theorem write_eq_ok_iff {path : Path} {content : List UInt8} {after : FileTree} :
    tree.write path content = .ok after ↔
      nameFault? path.text = none ∧ ∃ place, tree.locate path = .ok place ∧
        tree.entryAt place ≠ some .directory ∧ after = tree.put place (.file content) := by
  rw [write, attempt_eq_ok_iff, bind_eq_ok_iff]
  refine and_congr_right fun _ => exists_congr fun place => and_congr_right fun _ => ?_
  split
  · rename_i there
    simp [there]
  · rename_i free
    rw [pure_eq_ok_iff]
    exact ⟨fun same => ⟨free, same.symm⟩, fun ⟨_, same⟩ => same.symm⟩

private theorem makeDirectory_eq_ok_iff {path : Path} {after : FileTree} :
    tree.makeDirectory path = .ok after ↔
      nameFault? path.text = none ∧ ∃ place, tree.locate path = .ok place ∧
        tree.entryAt place = none ∧ after = tree.put place .directory := by
  rw [makeDirectory, attempt_eq_ok_iff, bind_eq_ok_iff]
  refine and_congr_right fun _ => exists_congr fun place => and_congr_right fun _ => ?_
  split
  · rename_i there
    simp [there]
  · rename_i free
    rw [pure_eq_ok_iff]
    exact ⟨fun same => ⟨free, same.symm⟩, fun ⟨_, same⟩ => same.symm⟩

theorem read_eq_ok_iff {path : Path} {content : List UInt8} :
    tree.read path = .ok content ↔
      nameFault? path.text = none ∧ tree.entryUnder path = .ok (some (.file content)) := by
  rw [read, attempt_eq_ok_iff, bind_eq_ok_iff]
  refine and_congr_right fun _ => ?_
  constructor
  · rintro ⟨there, found, isFile⟩
    split at isFile
    · simp at isFile
    · simp at isFile
    · rw [found, pure_eq_ok_iff.mp isFile]
  · intro found
    exact ⟨_, found, rfl⟩

/-! ## Directories -/

/-- A path names a directory that is there. -/
structure HasDirectory (tree : FileTree) (path : Path) : Prop where
  named : nameFault? path.text = none
  there : tree.entryUnder path = .ok (some .directory)

private theorem makeDirectory_of_hasDirectory {path : Path} (has : tree.HasDirectory path) :
    tree.makeDirectory path = .error (.refused .present path.text) := by
  obtain ⟨place, found, there⟩ := entryUnder_eq_ok_iff.mp has.there
  rw [makeDirectory, attempt, has.named, found]
  simp [bind, Except.bind, there, throw, throwThe, MonadExceptOf.throw, Except.mapError]

private theorem ensureDirectory_of_hasDirectory {path : Path} (has : tree.HasDirectory path) :
    tree.ensureDirectory path = (tree, .ok ()) := by
  rw [ensureDirectory, makeDirectory_of_hasDirectory has]
  dsimp only
  rw [ entry?, has.named, has.there]

/-- Nothing is done where the directory is there. -/
theorem makeDirectories_of_hasDirectory {path : Path} (has : tree.HasDirectory path) :
    tree.makeDirectories path = (tree, .ok ()) := by
  have present := makeDirectory_of_hasDirectory has
  have ensured := ensureDirectory_of_hasDirectory has
  obtain ⟨root, segments⟩ := path
  rw [makeDirectories]
  cases reversed : segments.reverse with
  | nil =>
      rw [List.reverse_eq_nil_iff.mp reversed] at ensured
      exact ensured
  | cons name above =>
      have same : (name :: above).reverse = segments := by rw [← reversed, List.reverse_reverse]
      rw [ensureDirectories, same, present]
      exact ensured

private theorem hasDirectory_ensureDirectory {path : Path}
    (made : (tree.ensureDirectory path).2 = .ok ()) :
    (tree.ensureDirectory path).1.HasDirectory path := by
  rw [ensureDirectory] at made ⊢
  cases outcome : tree.makeDirectory path with
  | ok after =>
      obtain ⟨named, place, found, free, rfl⟩ := makeDirectory_eq_ok_iff.mp outcome
      have belowRoot : place ≠ [] := by
        rintro rfl
        cases free
      refine ⟨named, entryUnder_eq_ok_iff.mpr ⟨place, ?_, entryAt_put_self belowRoot _⟩⟩
      exact locate_put (by rw [free]; exact nofun) found
  | error fault =>
      rw [outcome] at made
      cases fault with
      | unencodable _ => cases made
      | nullCharacter => cases made
      | refused reason name =>
          dsimp only at made ⊢
          -- The path was refused, but it may lead to a directory all the same.
          split at made
          · rename_i there
            rw [ entry?] at there
            split at there
            · cases there
            · rename_i named found
              exact ⟨named, found.trans (congrArg Except.ok (Except.ok.inj there))⟩
            · cases there
            · cases there
          · cases made
          · cases made

theorem hasDirectory_makeDirectories {path : Path} (made : (tree.makeDirectories path).2 = .ok ()) :
    (tree.makeDirectories path).1.HasDirectory path := by
  obtain ⟨root, segments⟩ := path
  rw [makeDirectories] at made ⊢
  cases reversed : segments.reverse with
  | nil =>
      rw [reversed] at made
      rw [List.reverse_eq_nil_iff.mp reversed]
      exact hasDirectory_ensureDirectory made
  | cons name above =>
      have same : (name :: above).reverse = segments := by rw [← reversed, List.reverse_reverse]
      rw [reversed, ensureDirectories, same] at made
      rw [ensureDirectories, same]
      revert made
      dsimp only
      split
      · split
        · exact hasDirectory_ensureDirectory
        · rename_i failed
          intro made
          exact (failed _ (Prod.ext rfl made)).elim
      · exact hasDirectory_ensureDirectory

end FileTree

end ApiClient
