import ApiClient.Proofs.Agreement
import ApiClient.Source.Chain

/-! The declarations of a module, schema by schema. Those of a list of schemas are
the declarations of its parts one after the other, so that each of them has its place
in the text of the module. -/

namespace ApiClient

/-! ## Texts between separators -/

theorem joined_cons (separator text : Text) (rest : List Text) :
    joined separator (text :: rest) = text ++ rest.flatMap (separator ++ ·) := by
  induction rest generalizing text with
  | nil => exact (List.append_nil text).symm
  | cons next rest induction =>
      rw [List.flatMap_cons, ← List.append_assoc, List.append_assoc text,
        List.append_assoc separator, ← induction, ← List.append_assoc]
      rfl

private theorem joined_append_cons (separator : Text) (before : List Text) (text : Text)
    (after : List Text) :
    joined separator (before ++ text :: after) =
      before.flatMap (· ++ separator) ++ (text ++ after.flatMap (separator ++ ·)) := by
  induction before with
  | nil => exact joined_cons separator text after
  | cons first before induction =>
      have step : joined separator (first :: (before ++ text :: after)) =
          first ++ separator ++ joined separator (before ++ text :: after) := by
        cases before <;> rfl
      rw [List.cons_append, step, induction, List.flatMap_cons, ← List.append_assoc]

/-! ## Declarations of schemas -/

namespace Chain

variable {ε : Type} (chain : Chain ε)

/-! A declarer without an answer makes no difference, and the first one with an answer has the last
word. -/

theorem answer_dispatch_of_none {declarer : Declarer ε} {name : Text} {node : Node}
    (passes : declarer name node = .ok none) (rest : List (Declarer ε)) :
    (dispatch name node (declarer :: rest)).answer = (dispatch name node rest).answer := by
  rw [dispatch, passes]

theorem answer_dispatch_of_some {declarer : Declarer ε} {name declaration : Text} {node : Node}
    (declares : declarer name node = .ok (some declaration)) (rest : List (Declarer ε)) :
    (dispatch name node (declarer :: rest)).answer = .ok (some declaration) := by
  rw [dispatch, declares]

theorem declarations_renderEach_cons (schema : Text × Node) (rest : List (Text × Node)) :
    (chain.renderEach (schema :: rest)).declarations = do
      let answer ← (chain.renderOne schema.1 schema.2).answer
      let later ← (chain.renderEach rest).declarations
      return answer.toList ++ later := by
  obtain ⟨name, node⟩ := schema
  rw [renderEach]
  cases (chain.renderOne name node).answer with
  | error failure => rfl
  | ok answer =>
      cases answer with
      | none => cases (chain.renderEach rest).declarations <;> rfl
      | some declaration =>
          change (declaration :: ·) <$> (chain.renderEach rest).declarations = _
          cases (chain.renderEach rest).declarations <;> rfl

private theorem declarations_renderEach_append (before after : List (Text × Node)) :
    (chain.renderEach (before ++ after)).declarations = do
      let earlier ← (chain.renderEach before).declarations
      let later ← (chain.renderEach after).declarations
      return earlier ++ later := by
  induction before with
  | nil =>
      rw [List.nil_append]
      cases (chain.renderEach after).declarations <;> rfl
  | cons schema before induction =>
      rw [List.cons_append, declarations_renderEach_cons, declarations_renderEach_cons, induction]
      cases (chain.renderOne schema.1 schema.2).answer with
      | error failure => rfl
      | ok answer =>
          cases (chain.renderEach before).declarations with
          | error failure => rfl
          | ok earlier =>
              cases (chain.renderEach after).declarations with
              | error failure => rfl
              | ok later => exact congrArg Except.ok (List.append_assoc _ _ _).symm

end Chain

/-- The declarations of schemas, with the declarers of the models module. -/
def declarations (schemas : List (Text × Node)) : Except Unwritable (List Text) :=
  ((Chain.mk defaultDeclarers).renderEach schemas).declarations

/-- What stands between two declarations. -/
def blankLine : Text := "\n\n"

/-- The text of a module of declarations. -/
def moduleText (declarations : List Text) : Text :=
  let text := joined blankLine declarations
  if text.isEmpty then "" else text ++ "\n"

theorem outcome_renderModels (schemas : List (Text × Node)) :
    (renderModels schemas).outcome = moduleText <$> declarations schemas := by
  rw [renderModels, Logged.outcome_bind, Chain.render, Chain.Rendering.text, declarations]
  cases ((Chain.mk defaultDeclarers).renderEach schemas).declarations <;> rfl

private theorem moduleText_append_cons (before : List Text) {text : Text} (nonempty : text ≠ [])
    (after : List Text) :
    moduleText (before ++ text :: after) =
      before.flatMap (· ++ blankLine) ++ (text ++ (after.flatMap (blankLine ++ ·) ++ "\n")) := by
  have notEmpty : (joined blankLine (before ++ text :: after)).isEmpty = false := by
    rw [joined_append_cons]
    simp [nonempty]
  rw [moduleText, notEmpty, joined_append_cons]
  simp only [Bool.false_eq_true, if_false, List.append_assoc]

/-- A schema with a declaration is never a reason why there is no module. The declaration stands
after those of the schemas before it. -/
theorem renderModels_append_cons (before after : List (Text × Node)) {name : Text} {node : Node}
    {declaration : Text} (nonempty : declaration ≠ [])
    (declares : ((Chain.mk defaultDeclarers).renderOne name node).answer = .ok (some declaration)) :
    (renderModels (before ++ (name, node) :: after)).outcome = (do
      let earlier ← declarations before
      let later ← declarations after
      return earlier.flatMap (· ++ blankLine) ++
        (declaration ++ (later.flatMap (blankLine ++ ·) ++ "\n"))) := by
  rw [outcome_renderModels, declarations, declarations, declarations,
    Chain.declarations_renderEach_append, Chain.declarations_renderEach_cons, declares]
  cases ((Chain.mk defaultDeclarers).renderEach before).declarations with
  | error failure => rfl
  | ok earlier =>
      cases ((Chain.mk defaultDeclarers).renderEach after).declarations with
      | error failure => rfl
      | ok later => exact congrArg Except.ok (moduleText_append_cons earlier nonempty later)

theorem exists_renderModels_append {before after : List (Text × Node)} :
    (∃ text, (renderModels (before ++ after)).outcome = .ok text) ↔
      (∃ earlier, declarations before = .ok earlier) ∧ ∃ later, declarations after = .ok later := by
  rw [outcome_renderModels, declarations, declarations, declarations,
    Chain.declarations_renderEach_append]
  cases ((Chain.mk defaultDeclarers).renderEach before).declarations with
  | error failure => exact ⟨nofun, nofun⟩
  | ok earlier =>
      cases ((Chain.mk defaultDeclarers).renderEach after).declarations with
      | error failure => exact ⟨nofun, nofun⟩
      | ok later => exact ⟨fun _ => ⟨⟨_, rfl⟩, _, rfl⟩, fun _ => ⟨_, rfl⟩⟩

end ApiClient
