import ApiClient.Proofs.Files.Names
import ApiClient.Proofs.Source.Specifier

/-! Where specifiers lead. A specifier is written from the steps between two places,
and read back as these steps; from the directory of the importing module they lead to
the module that is named. -/

namespace ApiClient

/-! ## Reading and writing -/

/-- Steps as a relative path. -/
def relativeText (steps : List Text) : Text :=
  if steps.isEmpty then ("." : Text) else joined "/" steps

/-- Steps as a specifier. -/
def specifierOf (steps : List Text) : Text :=
  if Text.ofString "../" |>.isPrefixOf (relativeText steps) then relativeText steps
  else "./" ++ relativeText steps

/-- The name for which a name stands whose dots are taken for steps. -/
def normalName (name : Text) : Text :=
  (Path.ofText name).normal.text

/-- What a specifier names in a module: its steps are taken in the directory of the module. -/
def resolved (importer specifier : Text) : Text :=
  normalName (beforeLastSlash importer ++ specifier)

example : resolved "runtime/request.ts" "../settings/http" = "settings/http" := by decide

/-- A name without the suffix of its last segment. -/
def withoutSuffix (name : Text) : Text :=
  name.take (name.length - (Path.ofText name).suffix.length)

example : withoutSuffix "a.b/c.d.ts" = "a.b/c.d" := by decide

/-- A name that only goes down: no segment is empty, or a dot or a double dot. -/
def IsPlainName (name : Text) : Prop :=
  ∀ part ∈ Text.split (· == CodePoint.char '/') name, part ≠ [] ∧ part ≠ "." ∧ part ≠ Path.upward

instance (name : Text) : Decidable (IsPlainName name) :=
  List.decidableBAll (fun part : Text => part ≠ [] ∧ part ≠ "." ∧ part ≠ Path.upward) _

theorem moduleSpecifier_eq (directory : List Text) {name : Text} {target : Path}
    (found : (Path.ofText name).withoutSuffix? = some target) (importer : Text) :
    moduleSpecifier directory name importer =
      .ok (specifierOf (Path.between ((Path.ofText (beforeLastSlash importer)).place directory)
        (target.place directory))) := by
  rw [moduleSpecifier, found]
  exact (apply_ite Except.ok _ _ _).symm

/-- No specifier looks like the name of a package. -/
theorem specifierOf_begins (steps : List Text) :
    ("./" : Text) <+: specifierOf steps ∨ ("../" : Text) <+: specifierOf steps := by
  rw [specifierOf]
  split
  · rename_i upward
    exact .inr (List.isPrefixOf_iff_prefix.mp upward)
  · exact .inl (List.prefix_append _ _)

private theorem segmentsOf_relativeText {steps : List Text}
    (each : ∀ step ∈ steps, Path.IsStep step) :
    Path.segmentsOf (relativeText steps) = steps := by
  rw [relativeText]
  split
  · rename_i empty
    rw [List.isEmpty_iff.mp empty]
    rfl
  · exact Path.segmentsOf_joined each

theorem segmentsOf_specifierOf {steps : List Text} (each : ∀ step ∈ steps, Path.IsStep step) :
    Path.segmentsOf (specifierOf steps) = steps := by
  rw [specifierOf]
  split
  · exact segmentsOf_relativeText each
  · exact (Path.segmentsOf_append_slash "." _).trans (segmentsOf_relativeText each)

/-! ## Directories of modules -/

/-- The directory of a module is what stands before its last slash, with that slash. -/
theorem beforeLastSlash_cases (name : Text) :
    (CodePoint.char '/' ∉ name ∧ beforeLastSlash name = []) ∨
      ∃ before last, CodePoint.char '/' ∉ last ∧ name = before ++ .char '/' :: last ∧
        beforeLastSlash name = before ++ ("/" : Text) := by
  by_cases slash : CodePoint.char '/' ∈ name
  · obtain ⟨before, divided, undivided⟩ := Text.exists_afterLast slash
    refine .inr ⟨before, _, undivided, divided, ?_⟩
    rw [beforeLastSlash]
    generalize Text.afterLast (.char '/') name = last at divided
    subst divided
    have split : before ++ CodePoint.char '/' :: last = (before ++ ("/" : Text)) ++ last :=
      (List.append_assoc before ("/" : Text) last).symm
    rw [split]
    exact List.take_left' (by simp only [List.length_append]; omega)
  · refine .inl ⟨slash, ?_⟩
    rw [beforeLastSlash, Text.afterLast_of_not_mem slash, Nat.sub_self, List.take_zero]

private theorem segmentsOf_beforeLastSlash_append (importer rest : Text) :
    Path.segmentsOf (beforeLastSlash importer ++ rest) =
      Path.segmentsOf (beforeLastSlash importer) ++ Path.segmentsOf rest := by
  rcases beforeLastSlash_cases importer with ⟨-, directory⟩ | ⟨before, last, -, -, directory⟩
  · rw [directory]
    rfl
  · have nothing : Path.segmentsOf [] = [] := rfl
    rw [directory, List.append_assoc]
    change Path.segmentsOf (before ++ .char '/' :: rest) =
      Path.segmentsOf (before ++ .char '/' :: []) ++ _
    rw [Path.segmentsOf_append_slash, Path.segmentsOf_append_slash, nothing, List.append_nil]

private theorem beforeLastSlash_append_afterLast (name : Text) :
    beforeLastSlash name ++ Text.afterLast (.char '/') name = name := by
  rcases beforeLastSlash_cases name with
    ⟨plain, directory⟩ | ⟨before, last, plain, divided, directory⟩
  · rw [directory, Text.afterLast_of_not_mem plain]
    rfl
  · rw [directory, divided, Text.afterLast_append_cons, Text.afterLast_of_not_mem plain]
    exact List.append_assoc before ("/" : Text) last

/-- The last segment of a name is what follows its directory. -/
theorem split_beforeLastSlash_append (name : Text) {last : Text}
    (undivided : CodePoint.char '/' ∉ last) :
    Text.split (· == CodePoint.char '/') (beforeLastSlash name ++ last) =
      (Text.split (· == CodePoint.char '/') name).dropLast ++ [last] := by
  rcases beforeLastSlash_cases name with
    ⟨plain, directory⟩ | ⟨before, other, plain, divided, directory⟩
  · rw [directory, Text.split_of_not_mem plain]
    exact Text.split_of_not_mem undivided
  · have behind : beforeLastSlash name ++ last = before ++ .char '/' :: last := by
      rw [directory]
      exact List.append_assoc before ("/" : Text) last
    rw [behind, divided, Text.split_append_cons, Text.split_append_cons,
      Text.split_of_not_mem plain, Text.split_of_not_mem undivided, List.dropLast_concat]

/-- A module has a relative name if and only if its directory has one. -/
theorem head?_beforeLastSlash_append {importer : Text}
    (relative : importer.head? ≠ some (.char '/')) {rest : Text}
    (further : rest.head? ≠ some (.char '/')) :
    (beforeLastSlash importer ++ rest).head? ≠ some (.char '/') := by
  rcases beforeLastSlash_cases importer with ⟨-, directory⟩ | ⟨before, last, -, divided, directory⟩
  · rwa [directory]
  · rw [directory]
    rw [divided] at relative
    cases before with
    | nil => exact absurd rfl relative
    | cons c before => exact relative

/-! ## Names that only go down -/

namespace IsPlainName

variable {name : Text}

theorem isName (plain : IsPlainName name) :
    ∀ part ∈ Text.split (· == CodePoint.char '/') name, Path.IsName part := by
  intro part member
  obtain ⟨nonempty, notDot, notUpward⟩ := plain part member
  refine ⟨⟨nonempty, fun slash => ?_, notDot⟩, notUpward⟩
  simpa using Text.not_separates_of_mem_split member slash

theorem segmentsOf_eq (plain : IsPlainName name) :
    Path.segmentsOf name = Text.split (· == CodePoint.char '/') name := by
  rw [Path.segmentsOf, List.filter_eq_self]
  intro part member
  obtain ⟨nonempty, notDot, -⟩ := plain part member
  exact Bool.and_eq_true_iff.mpr ⟨bne_iff_ne.mpr nonempty, bne_iff_ne.mpr notDot⟩

theorem relative (plain : IsPlainName name) : name.head? ≠ some (.char '/') := by
  intro slash
  obtain ⟨rest, rfl⟩ := List.head?_eq_some_iff.mp slash
  have first : ([] : Text) ∈ Text.split (· == CodePoint.char '/') (.char '/' :: rest) :=
    List.mem_cons_self
  exact (plain [] first).1 rfl

private theorem root_eq (plain : IsPlainName name) : (Path.ofText name).root = .none :=
  (Path.root_ofText_eq_none_iff name).mpr plain.relative

private theorem normalName_eq (plain : IsPlainName name) : normalName name = name := by
  have course : (Path.ofText name).course = ⟨0, Text.split (· == CodePoint.char '/') name⟩ := by
    change Path.Course.follow {} (Path.segmentsOf name) = _
    rw [plain.segmentsOf_eq]
    exact Path.Course.follow_names 0 [] plain.isName
  have parts := Text.split_ne_nil (· == CodePoint.char '/') name
  rw [normalName, Path.normal, course, Path.text, plain.root_eq]
  split
  · rename_i nothing
    exact absurd nothing parts
  · exact joined_split name

end IsPlainName

/-! ## Names without their suffix -/

/-- What is left of the last segment of a name. -/
def stemOf (name : Text) : Text :=
  (Path.splitSuffix (Text.afterLast (.char '/') name)).1

/-- The path that a plain name is without its suffix. -/
def targetOf (name : Text) : Path :=
  ⟨.none, (Text.split (· == CodePoint.char '/') name).dropLast ++ [stemOf name]⟩

theorem not_mem_stemOf (name : Text) : CodePoint.char '/' ∉ stemOf name := by
  refine Path.not_mem_splitSuffix_fst fun slash => ?_
  simpa using Text.not_separates_of_mem_split (List.getLast_mem (Text.split_ne_nil _ name)) slash

namespace IsPlainName

variable {name : Text} (plain : IsPlainName name)

include plain

private theorem getLast?_segments :
    (Path.ofText name).segments.getLast? = some (Text.afterLast (.char '/') name) := by
  change (Path.segmentsOf name).getLast? = _
  rw [plain.segmentsOf_eq]
  exact List.getLast?_eq_some_getLast (Text.split_ne_nil _ _)

theorem withoutSuffix_eq : withoutSuffix name = beforeLastSlash name ++ stemOf name := by
  have divided := beforeLastSlash_append_afterLast name
  rw [withoutSuffix, Path.suffix, plain.getLast?_segments, stemOf]
  generalize Text.afterLast (.char '/') name = last at divided
  generalize beforeLastSlash name = before at divided
  have suffix := Path.splitSuffix_append last
  dsimp only
  generalize Path.splitSuffix last = parts at suffix
  obtain ⟨stem, suffix⟩ := parts
  subst suffix divided
  rw [← List.append_assoc]
  exact List.take_left' (by simp only [List.length_append]; omega)

private theorem withoutSuffix?_eq : (Path.ofText name).withoutSuffix? = some (targetOf name) := by
  have segments : (Path.ofText name).segments = Text.split (· == CodePoint.char '/') name :=
    plain.segmentsOf_eq
  rw [Path.withoutSuffix?, plain.getLast?_segments, segments, plain.root_eq]
  rfl

private theorem stemOf_ne_nil : stemOf name ≠ [] :=
  Path.splitSuffix_fst_ne_nil (plain _ (List.getLast_mem (Text.split_ne_nil _ name))).1

private theorem forall_mem_targetOf :
    ∀ part ∈ (targetOf name).segments, part ≠ [] ∧ CodePoint.char '/' ∉ part := by
  intro part member
  rcases List.mem_append.mp member with member | member
  · have isName := plain.isName part (List.dropLast_subset _ member)
    exact ⟨isName.nonempty, isName.undivided⟩
  · rw [List.mem_singleton.mp member]
    exact ⟨plain.stemOf_ne_nil, not_mem_stemOf name⟩

private theorem course_withoutSuffix : (Path.ofText (withoutSuffix name)).course =
    (targetOf name).course := by
  have segments : (Path.ofText (withoutSuffix name)).segments =
      (targetOf name).segments.filter Path.isSegment := by
    change Path.segmentsOf (withoutSuffix name) = _
    rw [plain.withoutSuffix_eq, Path.segmentsOf,
      split_beforeLastSlash_append name (not_mem_stemOf name)]
    rfl
  rw [Path.course, segments]
  exact Path.Course.follow_filter {} _ fun part member => (plain.forall_mem_targetOf part member).1

private theorem relative_withoutSuffix : (withoutSuffix name).head? ≠ some (.char '/') := by
  rw [plain.withoutSuffix_eq]
  refine head?_beforeLastSlash_append plain.relative fun slash => ?_
  exact not_mem_stemOf name (List.mem_of_mem_head? slash)

private theorem isName_of_mem_descent : ∀ part ∈ (targetOf name).course.descent, Path.IsName part :=
  @Path.Course.isName_of_mem_descent {} nofun _ plain.forall_mem_targetOf

/-- Only a double dot that is left of a name alone leads above the directory of the output. -/
theorem climb_cases :
    (targetOf name).course.climb = 0 ∨
      withoutSuffix name = Path.upward ∧ (targetOf name).course = ⟨1, []⟩ := by
  have directories : Path.Course.follow {} (Text.split (· == CodePoint.char '/') name).dropLast =
      ⟨0, (Text.split (· == CodePoint.char '/') name).dropLast⟩ :=
    Path.Course.follow_names 0 [] fun part member =>
      plain.isName part (List.dropLast_subset _ member)
  have course : (targetOf name).course =
      Path.Course.step ⟨0, (Text.split (· == CodePoint.char '/') name).dropLast⟩ (stemOf name) := by
    rw [Path.course, targetOf, Path.Course.follow_append, directories]
    rfl
  have divided := split_beforeLastSlash_append name (not_mem_stemOf name)
  rw [← plain.withoutSuffix_eq] at divided
  rw [course, Path.Course.step]
  split
  · exact .inl rfl
  · split
    · rename_i isUpward
      split
      · rename_i alone
        dsimp only at alone
        rw [alone, isUpward] at divided
        refine .inr ⟨?_, congrArg (Path.Course.mk 1) alone⟩
        rw [← joined_split (withoutSuffix name), divided]
        rfl
      · exact .inl rfl
    · exact .inl rfl

end IsPlainName

/-! ## Where specifiers lead -/

private theorem normalName_congr {name other : Text} (relative : name.head? ≠ some (.char '/'))
    (alike : other.head? ≠ some (.char '/'))
    (same : (Path.ofText name).course = (Path.ofText other).course) :
    normalName name = normalName other := by
  rw [normalName, normalName, Path.normal, Path.normal, same,
    (Path.root_ofText_eq_none_iff name).mpr relative,
    (Path.root_ofText_eq_none_iff other).mpr alike]

section

variable {importer name : Text}

/-- Steps that change the course of the directory of a module into that of a name lead to that
name. -/
theorem resolved_specifierOf (relative : importer.head? ≠ some (.char '/'))
    (alike : name.head? ≠ some (.char '/')) {steps : List Text}
    (each : ∀ step ∈ steps, Path.IsStep step)
    (leads : (Path.ofText (beforeLastSlash importer)).course.follow steps =
      (Path.ofText name).course) :
    resolved importer (specifierOf steps) = normalName name := by
  have dot : (specifierOf steps).head? ≠ some (.char '/') := by
    intro slash
    rcases specifierOf_begins steps with ⟨rest, begins⟩ | ⟨rest, begins⟩ <;>
      · rw [← begins] at slash
        cases slash
  refine normalName_congr (head?_beforeLastSlash_append relative dot) alike ?_
  rw [← leads, Path.course, Path.course, ← Path.Course.follow_append]
  change Path.Course.follow {} (Path.segmentsOf _) = Path.Course.follow {} (Path.segmentsOf _ ++ _)
  rw [segmentsOf_beforeLastSlash_append, segmentsOf_specifierOf each]

theorem relative_beforeLastSlash (relative : importer.head? ≠ some (.char '/')) :
    (Path.ofText (beforeLastSlash importer)).root = .none := by
  have head : (beforeLastSlash importer ++ []).head? ≠ some (.char '/') :=
    head?_beforeLastSlash_append relative (by simp)
  rw [List.append_nil] at head
  exact (Path.root_ofText_eq_none_iff _).mpr head

private theorem climb_beforeLastSlash (plain : importer = [] ∨ IsPlainName importer) :
    (Path.ofText (beforeLastSlash importer)).course.climb = 0 := by
  rcases plain with rfl | plain
  · rfl
  · have names : ∀ part ∈ Path.segmentsOf (beforeLastSlash importer), Path.IsName part := by
      intro part member
      have within : part ∈ Path.segmentsOf importer := by
        rw [← beforeLastSlash_append_afterLast importer, segmentsOf_beforeLastSlash_append]
        exact List.mem_append_left _ member
      rw [plain.segmentsOf_eq] at within
      exact plain.isName part within
    change (Path.Course.follow {} (Path.segmentsOf (beforeLastSlash importer))).climb = 0
    rw [Path.Course.follow_names 0 [] names]

end

/-- Every plain name has a specifier in every module, and the specifier leads to the name
without its suffix. Only if a dot or a double dot is left of the last segment is that no plain
name; then the specifier leads to the directory to which the dots do. -/
theorem resolved_moduleSpecifier (directory : List Text) {name importer : Text}
    (plain : IsPlainName name) (place : importer = [] ∨ IsPlainName importer) :
    ∃ specifier, moduleSpecifier directory name importer = .ok specifier ∧
      (("./" : Text) <+: specifier ∨ ("../" : Text) <+: specifier) ∧
      (IsPlainName (withoutSuffix name) → resolved importer specifier = withoutSuffix name) ∧
      (withoutSuffix name ≠ Path.upward ∨ directory ≠ [] →
        resolved importer specifier = normalName (withoutSuffix name)) := by
  have relative : importer.head? ≠ some (.char '/') := by
    rcases place with rfl | place
    · simp
    · exact place.relative
  have level := climb_beforeLastSlash place
  refine ⟨_, moduleSpecifier_eq directory plain.withoutSuffix?_eq importer, specifierOf_begins _,
    ?_⟩
  rw [Path.place_eq (relative_beforeLastSlash relative), @Path.place_eq (targetOf name) rfl]
  have leads {steps : List Text} (each : ∀ step ∈ steps, Path.IsStep step)
      (follows : (Path.ofText (beforeLastSlash importer)).course.follow steps =
        (targetOf name).course) :
      resolved importer (specifierOf steps) = normalName (withoutSuffix name) :=
    resolved_specifierOf relative plain.relative_withoutSuffix each
      (follows.trans plain.course_withoutSuffix.symm)
  rcases plain.climb_cases with below | ⟨isUpward, above⟩
  · have same := below.trans level.symm
    have names := plain.isName_of_mem_descent
    have here := leads (Path.Course.isStep_of_mem_between_place same names)
      (@Path.Course.follow_between _ _ directory same names)
    exact ⟨fun proper => here.trans proper.normalName_eq, fun _ => here⟩
  · refine ⟨fun proper => absurd (isUpward ▸ proper) (by decide), fun inside => ?_⟩
    have empty : (targetOf name).course.descent = [] := congrArg Path.Course.descent above
    have climbs : (targetOf name).course.climb = 1 := congrArg Path.Course.climb above
    have higher :
        (Path.ofText (beforeLastSlash importer)).course.climb ≤ (targetOf name).course.climb :=
      level ▸ Nat.zero_le _
    have within : (targetOf name).course.climb ≤ directory.length :=
      climbs ▸ List.length_pos_iff.mpr (inside.resolve_left (not_not_intro isUpward))
    refine leads (fun step member => ?_) (Path.Course.follow_between_above empty higher within)
    rw [Path.Course.between_place_above empty higher within] at member
    exact List.eq_of_mem_replicate member ▸ Path.isStep_upward

/-- A module is found from the directory that has its name. -/
theorem resolved_moduleSpecifier_ownDirectory :
    let name : Text := "a/b.ts"
    let importer : Text := "a/b/c.ts"
    IsPlainName name ∧ IsPlainName importer ∧ IsPlainName (withoutSuffix name) ∧
      moduleSpecifier ["work"] name importer = .ok "./." ∧ resolved importer "./." =
        withoutSuffix name := by
  intro name importer
  have plain : IsPlainName name := by decide
  have place : IsPlainName importer := by decide
  have proper : IsPlainName (withoutSuffix name) := by decide
  have written : moduleSpecifier ["work"] name importer = .ok "./." := by decide
  obtain ⟨specifier, found, -, leads, -⟩ := resolved_moduleSpecifier ["work"] plain (.inr place)
  obtain rfl := Except.ok.inj (written.symm.trans found)
  exact ⟨plain, place, proper, written, leads proper⟩

/-- What is left of a name can be a dot, which no specifier keeps. -/
theorem resolved_moduleSpecifier_dottedName :
    let name : Text := "a/..ts"
    IsPlainName name ∧ withoutSuffix name = "a/." ∧ moduleSpecifier ["work"] name [] = .ok "./a" ∧
      resolved [] "./a" ≠ withoutSuffix name := by
  decide

end ApiClient
