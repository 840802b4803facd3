import ApiClient.Source.Specifier

/-! When a file name has a specifier. -/

namespace ApiClient

/-- A file name that says nothing but where to look: between its slashes there are only dots, if
anything. -/
def IsNameless (name : Text) : Prop :=
  ∀ part ∈ Text.split (· == CodePoint.char '/') name, part = [] ∨ part = "."

instance (name : Text) : Decidable (IsNameless name) :=
  List.decidableBAll (fun part : Text => part = [] ∨ part = ".") _

example : IsNameless "/./" := by decide

example : ¬IsNameless "./config.ts" := by decide

namespace Path

private theorem isSegment_eq_false_iff (part : Text) :
    isSegment part = false ↔ part = [] ∨ part = "." := by
  unfold isSegment
  by_cases empty : part = []
  · simp [empty]
  · simp [empty]

theorem segmentsOf_eq_nil_iff (name : Text) : segmentsOf name = [] ↔ IsNameless name := by
  unfold segmentsOf IsNameless
  rw [List.filter_eq_nil_iff]
  apply forall₂_congr
  intro part _
  rw [Bool.not_eq_true]
  exact isSegment_eq_false_iff part

private theorem withoutSuffix?_eq_none_iff (name : Text) :
    (ofText name).withoutSuffix? = none ↔ IsNameless name := by
  rw [← segmentsOf_eq_nil_iff, withoutSuffix?, Option.map_eq_none_iff, List.getLast?_eq_none_iff]
  rfl

end Path

theorem exists_moduleSpecifier (directory : List Text) {name : Text} (named : ¬IsNameless name)
    (importer : Text) : ∃ specifier, moduleSpecifier directory name importer = .ok specifier := by
  rw [← Path.withoutSuffix?_eq_none_iff] at named
  obtain ⟨target, found⟩ := Option.ne_none_iff_exists'.mp named
  rw [moduleSpecifier, found]
  dsimp only
  rw [← apply_ite Except.ok]
  exact ⟨_, rfl⟩

/-- Whether there is a specifier depends on the file name alone, and not on the module that it is
for or on the working directory. -/
theorem moduleSpecifier_fails_iff (directory : List Text) (name importer : Text) :
    moduleSpecifier directory name importer = .error ⟨Path.ofText name⟩ ↔ IsNameless name := by
  by_cases nameless : IsNameless name
  · rw [moduleSpecifier, (Path.withoutSuffix?_eq_none_iff name).mpr nameless]
    simp [nameless]
  · obtain ⟨specifier, succeeds⟩ := exists_moduleSpecifier directory nameless importer
    simp [succeeds, nameless]

end ApiClient
