import ApiClient.Proofs.Document.Chains
import ApiClient.Proofs.Document.Values

/-! The parameters of an operation. All references among them are followed, those of the path as
well where the operation has a parameter of its own, and each parameter that travels in a known
place and has a type gives one argument. -/

namespace ApiClient

/-! ## Lists of references -/

section

variable {α : Type} {shelf : Shelf α} {nodes : List (OrReference α)}

theorem resolveAll_eq_ok_iff {parts : List α} :
    resolveAll shelf nodes = .ok parts ↔
      List.Forall₂ (fun node part => shelf.Ends node (.ok part)) nodes parts := by
  simp only [resolveAll, mapM_eq_ok_iff, Shelf.resolve_eq_iff]

theorem exists_resolveAll_iff :
    (∃ parts, resolveAll shelf nodes = .ok parts) ↔
      ∀ node ∈ nodes, ∃ part, shelf.Ends node (.ok part) := by
  simp only [resolveAll, exists_mapM_eq_ok_iff, Shelf.resolve_eq_iff]

/-- The first reference that leads nowhere is the failure of all. -/
theorem resolveAll_eq_error_iff {broken : BrokenReference} :
    resolveAll shelf nodes = .error broken ↔
      ∃ before node after, nodes = before ++ node :: after ∧
        (∀ other ∈ before, ∃ part, shelf.Ends other (.ok part)) ∧
        shelf.Ends node (.error broken) := by
  simp only [resolveAll, mapM_eq_error_iff, Shelf.resolve_eq_iff]

theorem resolveAll_append_eq_error_iff {others : List (OrReference α)} {broken : BrokenReference} :
    resolveAll shelf (nodes ++ others) = .error broken ↔
      resolveAll shelf nodes = .error broken ∨
        ∃ parts, resolveAll shelf nodes = .ok parts ∧ resolveAll shelf others = .error broken := by
  rw [resolveAll, List.mapM_append]
  change (resolveAll shelf nodes >>= fun first =>
    resolveAll shelf others >>= fun second => pure (first ++ second)) = _ ↔ _
  cases resolveAll shelf nodes with
  | error reason => simp [bind, Except.bind]
  | ok first => cases resolveAll shelf others <;> simp [bind, Except.bind, pure, Except.pure]

theorem Shelf.Ends.satisfies {property : α → Prop}
    (parts : ∀ part ∈ shelf.parts, part.2.Satisfies property) {node : OrReference α}
    (satisfies : node.Satisfies property) {part : α} (ends : shelf.Ends node (.ok part)) :
    property part :=
  Shelf.satisfies_follow parts satisfies (Shelf.resolve_eq_iff.mpr ends)

end

theorem satisfies_mergeParameters {property : Parameter → Prop} {own inherited : List Parameter}
    (first : ∀ parameter ∈ own, property parameter)
    (second : ∀ parameter ∈ inherited, property parameter) :
    ∀ parameter ∈ mergeParameters own inherited, property parameter := by
  unfold mergeParameters
  induction inherited generalizing own with
  | nil => exact first
  | cons parameter rest induction =>
      obtain ⟨ofParameter, others⟩ := List.forall_mem_cons.mp second
      rw [List.foldl_cons]
      refine induction ?_ others
      split
      · exact first
      · exact List.forall_mem_append.mpr ⟨first, List.forall_mem_singleton.mpr ofParameter⟩

/-! ## Arguments -/

namespace Parameter

/-- The places from which parameters take part in a request. -/
def knownLocations : List Text :=
  ["query", "path", "header"]

/-- A parameter travels in a known place and has a type. -/
def takesPart (space : Option Text) (parameter : Parameter) : Bool :=
  knownLocations.contains parameter.location &&
    match parameter.schema with
    | none => false
    | some schema => typeOf space schema matches .ok (some _)

/-- The argument that stands for a parameter. -/
structure Gives (space : Option Text) (parameter : Parameter) (argument : Argument) : Prop where
  name : argument.name = parameter.name
  place : argument.place = Place.named parameter.location
  type : ∃ schema, parameter.schema = some schema ∧ typeOf space schema = .ok (some argument.type)
  required : argument.required = (parameter.required == some true || parameter.isNullabilityGiven)
  description : argument.description = parameter.description

variable {space : Option Text} {parameter : Parameter}

theorem named_eq_other_iff (location : Text) :
    (∃ name, Place.named location = .other name) ↔ knownLocations.contains location = false := by
  unfold Place.named
  rw [← Bool.not_eq_true, List.contains_iff_mem]
  simp only [knownLocations, List.mem_cons, List.not_mem_nil, or_false]
  split
  · simp [*]
  · split
    · simp [*]
    · split
      · simp [*]
      · simp [*]

private theorem argument_eq_ok {given : Option Argument}
    (succeeds : (parameter.argument space).outcome = .ok given) :
    (parameter.takesPart space = false ∧ given = none) ∨
      parameter.takesPart space = true ∧ ∃ argument, given = some argument ∧
        parameter.Gives space argument := by
  rw [argument] at succeeds
  split at succeeds
  · rename_i elsewhere
    cases succeeds
    refine .inl ⟨?_, rfl⟩
    rw [takesPart, (named_eq_other_iff _).mp ⟨_, elsewhere⟩, Bool.false_and]
  · rename_i absent _
    cases succeeds
    refine .inl ⟨?_, rfl⟩
    rw [takesPart, absent, Bool.and_false]
  · rename_i schema present known
    have isKnown : knownLocations.contains parameter.location = true := by
      rw [← Bool.not_eq_false, ← named_eq_other_iff]
      rintro ⟨name, elsewhere⟩
      exact known name elsewhere
    rw [Logged.outcome_bind] at succeeds
    obtain ⟨type, written, succeeds⟩ := exists_of_bind_eq_ok succeeds
    rw [takesPart, isKnown, present, Bool.true_and]
    dsimp only
    rw [show typeOf space schema = .ok type from written]
    cases type with
    | none =>
        cases succeeds
        exact .inl ⟨rfl, rfl⟩
    | some type =>
        cases succeeds
        exact .inr ⟨rfl, _, rfl, rfl, rfl, ⟨schema, present, written⟩, rfl, rfl⟩

private theorem exists_argument (space : Option Text) (json : parameter.HasJsonValues) :
    ∃ given, (parameter.argument space).outcome = .ok given := by
  rw [argument]
  split
  · exact ⟨_, rfl⟩
  · exact ⟨_, rfl⟩
  · rename_i schema present _
    obtain ⟨type, written⟩ := (json schema present).exists_typeOf space
    rw [written]
    cases type with
    | none => exact ⟨_, rfl⟩
    | some type => exact ⟨_, rfl⟩

end Parameter

/-- The arguments are those of the parameters that take part, in that order. -/
theorem forall₂_argumentsOf {space : Option Text} {parameters : List Parameter}
    {arguments : List Argument}
    (succeeds : (argumentsOf space parameters).outcome = .ok arguments) :
    List.Forall₂ (Parameter.Gives space) (parameters.filter (·.takesPart space)) arguments := by
  induction parameters generalizing arguments with
  | nil =>
      cases succeeds
      exact .nil
  | cons parameter rest induction =>
      rw [argumentsOf, Logged.outcome_bind] at succeeds
      obtain ⟨given, ofParameter, succeeds⟩ := exists_of_bind_eq_ok succeeds
      rw [Logged.outcome_bind] at succeeds
      obtain ⟨others, ofRest, ⟨⟩⟩ := exists_of_bind_eq_ok succeeds
      rcases Parameter.argument_eq_ok ofParameter with ⟨drops, rfl⟩ | ⟨takes, argument, rfl, gives⟩
      · rw [List.filter_cons_of_neg (by rw [drops]; exact Bool.false_ne_true)]
        exact induction ofRest
      · rw [List.filter_cons_of_pos takes]
        exact .cons gives (induction ofRest)

theorem exists_argumentsOf (space : Option Text) {parameters : List Parameter}
    (json : ∀ parameter ∈ parameters, parameter.HasJsonValues) :
    ∃ arguments, (argumentsOf space parameters).outcome = .ok arguments := by
  induction parameters with
  | nil => exact ⟨[], rfl⟩
  | cons parameter rest induction =>
      obtain ⟨first, others⟩ := List.forall_mem_cons.mp json
      obtain ⟨given, ofParameter⟩ := Parameter.exists_argument space first
      obtain ⟨arguments, ofRest⟩ := induction others
      refine ⟨given.toList ++ arguments, ?_⟩
      rw [argumentsOf, Logged.outcome_bind, ofParameter]
      change ((argumentsOf space rest >>= fun others => pure (given.toList ++ others) :
        Logged Unwritable _)).outcome = _
      rw [Logged.outcome_bind, ofRest]
      rfl

/-! ## Request bodies -/

theorem RequestBody.HasJsonValues.exists_content {body : RequestBody} (json : body.HasJsonValues)
    (space : Option Text) : ∃ content, body.content? space = .ok content := by
  rw [RequestBody.content?]
  split
  · exact ⟨_, rfl⟩
  · exact ⟨_, rfl⟩
  · rename_i contentType media rest given
    split
    · exact ⟨_, rfl⟩
    · rename_i schema present
      have member : (contentType, media) ∈ body.content.getD [] := given ▸ List.mem_cons_self
      obtain ⟨type, written⟩ := (json _ member schema present).exists_typeOf space
      exact ⟨_, by rw [written]; rfl⟩

end ApiClient
