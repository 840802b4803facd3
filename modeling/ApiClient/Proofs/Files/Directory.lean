import ApiClient.Proofs.Files.Tree
import Mathlib.Logic.Function.Basic

/-! Directories in file trees. What can be written below a directory that holds nothing but files is
a file right in that directory. -/

namespace ApiClient

/-! ## Paths below a directory -/

/-- A path that leads downwards from where it starts. -/
structure Path.IsInside (path : Path) : Prop where
  relative : path.root = .none
  downwards : Path.upward ∉ path.segments

/-- A path seen from a directory names a file in that directory, and not further below, in a way
that the system takes. -/
structure Path.IsFileIn (output path : Path) (segment : Text) : Prop where
  single : path.segments = [segment]
  named : nameFault? (output.join path).text = none
  short : Text.Utf8.size segment ≤ FileTree.greatestNameSize
  fits : Text.Utf8.size (output.join path).text < FileTree.pathSizeLimit

instance (path : Path) : Decidable path.IsInside :=
  decidable_of_iff (path.root = .none ∧ Path.upward ∉ path.segments)
    ⟨fun ⟨relative, downwards⟩ => ⟨relative, downwards⟩,
      fun ⟨relative, downwards⟩ => ⟨relative, downwards⟩⟩

instance (output path : Path) (segment : Text) : Decidable (output.IsFileIn path segment) :=
  decidable_of_iff (path.segments = [segment] ∧ nameFault? (output.join path).text = none ∧
      Text.Utf8.size segment ≤ FileTree.greatestNameSize ∧
      Text.Utf8.size (output.join path).text < FileTree.pathSizeLimit)
    ⟨fun ⟨single, named, short, fits⟩ => ⟨single, named, short, fits⟩,
      fun ⟨single, named, short, fits⟩ => ⟨single, named, short, fits⟩⟩

theorem Path.eq_of_isInside {path other : Path} (inside : path.IsInside) (also : other.IsInside)
    (same : path.segments = other.segments) : path = other := by
  cases path
  cases other
  exact congrArg₂ Path.mk (inside.relative.trans also.relative.symm) same

private theorem Path.join_of_isInside {output path : Path} (inside : path.IsInside) :
    output.join path = ⟨output.root, output.segments ++ path.segments⟩ := by
  rw [Path.join, if_neg]
  simp [Path.isAbsolute, inside.relative]

/-! ## Directories with files -/

namespace FileTree

/-- A directory at a place, with some files in it and nothing else. -/
structure Holds (tree : FileTree) (output : Path) (place : List Text)
    (contents : Text → Option (List UInt8)) : Prop where
  named : nameFault? output.text = none
  found : tree.locate output = .ok place
  there : tree.entryAt place = some .directory
  files : ∀ name, tree.entryAt (place ++ [name]) = (contents name).map .file

namespace Holds

variable {tree : FileTree} {output path : Path} {place : List Text}
  {contents : Text → Option (List UInt8)}

theorem hasDirectory (holds : tree.Holds output place contents) : tree.HasDirectory output :=
  ⟨holds.named, entryUnder_eq_ok_iff.mpr ⟨place, holds.found, holds.there⟩⟩

/-- There is no way further down than to a file in the directory. -/
theorem follow_eq_ok_iff (holds : tree.Holds output place contents) (inside : path.IsInside)
    (target : List Text) :
    tree.follow place path.segments = .ok target ↔
      path.segments = [] ∧ target = place ∨
        ∃ segment, path.segments = [segment] ∧ Text.Utf8.size segment ≤ greatestNameSize ∧
          target = place ++ [segment] := by
  obtain ⟨root, segments⟩ := path
  have downwards := inside.downwards
  dsimp only at downwards ⊢
  cases segments with
  | nil => simp [follow, eq_comm]
  | cons first rest =>
      have down : first ≠ Path.upward := fun same => downwards (same ▸ List.mem_cons_self)
      rw [follow, holds.there]
      dsimp only
      rw [if_neg down]
      cases rest with
      | nil =>
          split
          · rename_i long
            simp [Nat.not_le.mpr long]
          · rename_i short
            simp [follow, Nat.not_lt.mp short, eq_comm]
      | cons second further =>
          rw [follow, holds.files]
          cases contents first with
          | none => split <;> simp
          | some octets => split <;> simp

theorem locate_join_eq_ok_iff (holds : tree.Holds output place contents) (inside : path.IsInside)
    (target : List Text) :
    tree.locate (output.join path) = .ok target ↔
      Text.Utf8.size (output.join path).text < pathSizeLimit ∧
        (path.segments = [] ∧ target = place ∨
          ∃ segment, path.segments = [segment] ∧ Text.Utf8.size segment ≤ greatestNameSize ∧
            target = place ++ [segment]) := by
  have found := holds.found
  rw [locate] at found
  split at found
  · cases found
  · have leads : tree.follow (if (output.join path).isAbsolute then [] else tree.home)
        (output.join path).segments = tree.follow place path.segments := by
      rw [Path.join_of_isInside inside]
      dsimp only
      rw [follow_append]
      exact congrArg (· >>= fun place => tree.follow place path.segments) found
    rw [locate, leads, ← holds.follow_eq_ok_iff inside, ← Nat.not_le]
    split
    · rename_i long
      simp [long]
    · rename_i fits
      simp [fits]

private theorem locate_join_of_isFileIn (holds : tree.Holds output place contents)
    (inside : path.IsInside) {segment : Text} (isFile : output.IsFileIn path segment) :
    tree.locate (output.join path) = .ok (place ++ [segment]) :=
  (holds.locate_join_eq_ok_iff inside _).mpr
    ⟨isFile.fits, .inr ⟨segment, isFile.single, isFile.short, rfl⟩⟩

private theorem entryUnder_join_of_isFileIn (holds : tree.Holds output place contents)
    (inside : path.IsInside) {segment : Text} (isFile : output.IsFileIn path segment) :
    tree.entryUnder (output.join path) = .ok ((contents segment).map .file) :=
  entryUnder_eq_ok_iff.mpr ⟨_, holds.locate_join_of_isFileIn inside isFile, holds.files segment⟩

private theorem isFree (holds : tree.Holds output place contents) (segment : Text) :
    tree.entryAt (place ++ [segment]) ≠ some .directory := by
  rw [holds.files]
  cases contents segment <;> simp

/-- What can be written below the directory. -/
theorem write_join_eq_ok_iff (holds : tree.Holds output place contents) (inside : path.IsInside)
    (octets : List UInt8) (after : FileTree) :
    tree.write (output.join path) octets = .ok after ↔
      ∃ segment, output.IsFileIn path segment ∧
        after = tree.put (place ++ [segment]) (.file octets) := by
  rw [write_eq_ok_iff]
  constructor
  · rintro ⟨named, target, found, free, rfl⟩
    obtain ⟨fits, ⟨-, rfl⟩ | ⟨segment, single, short, rfl⟩⟩ :=
      (holds.locate_join_eq_ok_iff inside target).mp found
    · exact absurd holds.there free
    · exact ⟨segment, ⟨single, named, short, fits⟩, rfl⟩
  · rintro ⟨segment, isFile, rfl⟩
    exact ⟨isFile.named, _, holds.locate_join_of_isFileIn inside isFile, holds.isFree segment, rfl⟩

/-- A written file is there, and the others are as they were. -/
theorem put (holds : tree.Holds output place contents) (segment : Text) (octets : List UInt8) :
    (tree.put (place ++ [segment]) (.file octets)).Holds output place
      (Function.update contents segment (some octets)) := by
  refine ⟨holds.named, locate_put (holds.isFree segment) holds.found, ?_, fun name => ?_⟩
  · rw [entryAt_put_of_ne (by simp)]
    exact holds.there
  · by_cases same : name = segment
    · rw [same, entryAt_put_self (by simp), Function.update_self]
      rfl
    · have apart : place ++ [segment] ≠ place ++ [name] := by
        simpa [eq_comm] using same
      rw [entryAt_put_of_ne apart, holds.files, Function.update_of_ne same]

theorem read_join (holds : tree.Holds output place contents) (inside : path.IsInside)
    {segment : Text} (isFile : output.IsFileIn path segment) {octets : List UInt8}
    (content : contents segment = some octets) :
    tree.read (output.join path) = .ok octets := by
  rw [read_eq_ok_iff, holds.entryUnder_join_of_isFileIn inside isFile, content]
  exact ⟨isFile.named, rfl⟩

/-- Nothing is kept that is not there yet. -/
theorem contains_join_ne_true (holds : tree.Holds output place contents) (inside : path.IsInside)
    (named : path.segments ≠ []) (free : ∀ segment, path.segments = [segment] →
      contents segment = none) : tree.contains (output.join path) ≠ .ok true := by
  intro kept
  rw [contains] at kept
  obtain ⟨entry, found, isThere⟩ := exists_of_map_eq_ok kept
  rw [ entry?] at found
  split at found
  · cases found
    cases isThere
  · rename_i there
    cases found
    obtain ⟨target, located, rfl⟩ := entryUnder_eq_ok_iff.mp there
    obtain ⟨-, ⟨nameless, -⟩ | ⟨segment, single, -, rfl⟩⟩ :=
      (holds.locate_join_eq_ok_iff inside target).mp located
    · exact named nameless
    · rw [holds.files, free segment single] at isThere
      cases isThere
  · cases found
  · cases found
    cases isThere

theorem contains_join_of_isFileIn (holds : tree.Holds output place contents)
    (inside : path.IsInside) {segment : Text} (isFile : output.IsFileIn path segment)
    (free : contents segment = none) : tree.contains (output.join path) = .ok false := by
  rw [contains, entry?, isFile.named, holds.entryUnder_join_of_isFileIn inside isFile, free]
  rfl

end Holds

/-! ## Empty directories -/

/-- An output directory that is empty once it is there. -/
structure IsFresh (tree : FileTree) (output : Path) : Prop where
  made : (tree.makeDirectories output).2 = .ok ()
  empty : ∀ place, (tree.makeDirectories output).1.locate output = .ok place →
    ∀ name, (tree.makeDirectories output).1.entryAt (place ++ [name]) = none

theorem IsFresh.exists_holds {tree : FileTree} {output : Path} (fresh : tree.IsFresh output) :
    ∃ place, (tree.makeDirectories output).1.Holds output place fun _ => none := by
  have ⟨named, there⟩ := hasDirectory_makeDirectories fresh.made
  obtain ⟨place, found, there⟩ := entryUnder_eq_ok_iff.mp there
  exact ⟨place, named, found, there, fresh.empty place found⟩

end FileTree

end ApiClient
