import ApiClient.Proofs.Code.Types
import ApiClient.Source.Chain

/-! Declarations with and without descriptions. A class takes its fields twice, and everything else
in it depends on the names, the defaults and the order of its properties alone. -/

namespace ApiClient.Code

/-! ## Classes -/

private theorem defaultLiteral_redacted (node : Node) :
    defaultLiteral node.redacted = defaultLiteral node := by
  cases node <;> rfl

private theorem bindingTexts_redacted (properties : List (Text × Node)) :
    bindingTexts (redactedFields properties) = bindingTexts properties := by
  rw [redactedFields_eq, mapValues, bindingTexts, bindingTexts, List.mapM_map]
  congr 1
  funext ⟨name, node⟩
  change (do return bindingText name (← defaultLiteral node.redacted)) = _
  rw [defaultLiteral_redacted]

private theorem constructorFallback_redacted (properties : List (Text × Node)) :
    constructorFallback (redactedFields properties) = constructorFallback properties := by
  rw [redactedFields_eq, mapValues, constructorFallback, constructorFallback, List.any_map]
  simp only [Function.comp_def, Node.isOptional_redacted]

private theorem balanced_defaultLiteral {node : Node} {text : Text}
    (written : defaultLiteral node = .ok (some text)) : Balanced text := by
  have literal {value : Value} (ok : some <$> literal value = .ok (some text)) :
      Balanced text := by
    obtain ⟨found, written, ⟨⟩⟩ := exists_of_map_eq_ok ok
    exact balanced_literal written
  cases node with
  | reference _ => cases written
  | inline facets _ _ =>
      unfold defaultLiteral at written
      dsimp only at written
      split at written
      · exact literal written
      · exact literal written
      · exact literal written
      · exact literal written
      · cases written

private theorem balanced_bindingText (name : Text) {default : Option Text}
    (balanced : ∀ text ∈ default, Balanced text) : Balanced (bindingText name default) := by
  have binding := (isPlain_bindingName name).balanced
  have pattern : Balanced (if bindingName name = name then bindingName name
      else propertyKey name ++ ": " ++ bindingName name) := by
    split
    · exact binding
    · exact ((balanced_propertyKey name).append fun _ => rfl).append binding
  have equals : Balanced " = " := fun _ => rfl
  have comma : Balanced "," := fun _ => rfl
  unfold bindingText
  split
  · exact pattern.append comma
  · rename_i value
    exact ((pattern.append equals).append (balanced value rfl)).append comma

private theorem balanced_bindingTexts {properties : List (Text × Node)} {texts : List Text}
    (written : bindingTexts properties = .ok texts) : ∀ text ∈ texts, Balanced text := by
  refine forall_mem_of_mapM_eq_ok ?_ written
  rintro ⟨name, node⟩ text ofProperty
  obtain ⟨default, ofDefault, ⟨⟩⟩ := exists_of_bind_eq_ok ofProperty
  exact balanced_bindingText name fun text found =>
    balanced_defaultLiteral (ofDefault.trans (congrArg Except.ok found))

private theorem balanced_assignmentText (name : Text) : Balanced (assignmentText name) := by
  have this : Balanced "this" := fun _ => rfl
  have equals : Balanced " = " := fun _ => rfl
  have semicolon : Balanced ";" := fun _ => rfl
  have binding := (isPlain_bindingName name).balanced
  exact (((balanced_memberAccess this name).append equals).append binding).append semicolon

private theorem constructorText_redacted (fields : Text) (bindings : List Text)
    (properties : List (Text × Node)) :
    constructorText fields bindings (redactedFields properties) =
      constructorText fields bindings properties := by
  unfold constructorText
  rw [constructorFallback_redacted, redactedFields_eq, mapValues, List.map_map]
  rfl

private theorem similar_constructorText {left right : Text} (fields : Similar left right)
    {bindings : List Text} (balanced : ∀ text ∈ bindings, Balanced text)
    (properties : List (Text × Node)) :
    Similar (constructorText left bindings properties)
      (constructorText right bindings (redactedFields properties)) := by
  have assignments : Balanced (lines (properties.map fun field => assignmentText field.1)) := by
    apply balanced_lines
    intro text member
    obtain ⟨property, _, rfl⟩ := List.mem_map.mp member
    exact balanced_assignmentText property.1
  have opening : Reads [] [.curly, .round] "constructor(\x7b" := fun _ => rfl
  have between : Reads [.curly, .round] [.curly, .round] "\x7d: \x7b" := fun _ => rfl
  have fallback : Balanced (constructorFallback properties) := by
    unfold constructorFallback
    split <;> exact fun _ => rfl
  have curly : Reads [.curly, .round] [.round] "\x7d" := fun _ => rfl
  have body : Reads [.round] [.curly] ") \x7b" := fun _ => rfl
  have closing : Reads [.curly] [] "\x7d" := fun _ => rfl
  rw [constructorText_redacted]
  unfold constructorText
  have signature := ((curly.append (fallback.within [.round])).append body).alike
  exact opening.alike.line ((((balanced_lines balanced).indent 1).within _).alike.line
    (between.alike.line (((similar_indented fields).within _).line
      (signature.line (((assignments.indent 1).within _).alike.line closing.alike)))))

private theorem agree_classDeclaration {name : Text} (plain : IsPlain name)
    {properties : List (Text × Node)} (names : ∀ field ∈ properties, field.2.HasPlainNames) :
    Agree Similar (classDeclaration name properties)
      (classDeclaration name (redactedFields properties)) := by
  have head : Balanced ("export class " ++ name) :=
    Reads.append (fun _ => rfl) plain.balanced
  cases properties with
  | nil =>
      have empty : Balanced " \x7b\n  constructor() \x7b\x7d\n\x7d" := fun _ => rfl
      exact .success (head.append empty).alike
  | cons field rest =>
      have fields : Agree Similar (renderFields none (field :: rest))
          (renderFields none (redactedFields (field :: rest))) :=
        (agree_fieldTexts (by simp) (field :: rest) names).map similar_lines
      apply fields.bind
      intro left right fields
      rw [bindingTexts_redacted]
      have bindings : Agree (fun texts others => texts = others ∧ ∀ text ∈ texts, Balanced text)
          (bindingTexts (field :: rest)) (bindingTexts (field :: rest)) :=
        .refl fun texts written => ⟨rfl, balanced_bindingTexts written⟩
      apply bindings.bind
      rintro texts _ ⟨rfl, balanced⟩
      have opening : Reads [] [.curly] (("export class " ++ name) ++ " \x7b\n") :=
        head.append fun _ => rfl
      have between : Balanced "\n\n" := fun _ => rfl
      have closing : Reads [.curly] [] "\n\x7d" := fun _ => rfl
      have constructor := similar_constructorText fields balanced (field :: rest)
      exact .success
        ((((Alike.reads_append opening ((similar_indented fields).within _)).append_reads
        (between.within _)).append ((similar_indented constructor).within _)).append_reads closing)

/-! ## Enumerations and aliases -/

private theorem balanced_memberText (value : Text) : Balanced (memberText value) := by
  have key : Balanced (memberName value) := by
    unfold memberName
    split <;> exact balanced_propertyKey _
  have equals : Balanced " = " := fun _ => rfl
  have comma : Balanced "," := fun _ => rfl
  exact ((key.append equals).append (balanced_quoted value)).append comma

private theorem balanced_memberOf {value : Value} {text : Text}
    (written : memberOf value = .ok text) :
    Balanced text := by
  unfold memberOf at written
  split at written
  · cases written
    exact balanced_memberText _
  · cases written

private theorem agree_enumDeclaration {name : Text} (plain : IsPlain name) (members : List Value) :
    Agree Similar (enumDeclaration name members) (enumDeclaration name members) := by
  have texts : Agree (fun texts others => texts = others ∧ Balanced (lines texts))
      ((members.filter (!isNull ·)).mapM memberOf) ((members.filter (!isNull ·)).mapM memberOf) :=
    .refl fun texts written =>
      ⟨rfl, balanced_lines (forall_mem_of_mapM_eq_ok balanced_memberOf written)⟩
  have head : Balanced ("export enum " ++ name) :=
    Reads.append (fun _ => rfl) plain.balanced
  apply texts.bind
  rintro texts _ ⟨rfl, balanced⟩
  split
  · have empty : Balanced " \x7b\x7d" := fun _ => rfl
    exact .success (head.append empty).alike
  · have opening : Reads [] [.curly] (("export enum " ++ name) ++ " \x7b\n") :=
      head.append fun _ => rfl
    have closing : Reads [.curly] [] "\n\x7d" := fun _ => rfl
    exact .success (Reads.alike ((balanced.indent 1).enclosed opening closing))

private theorem agree_aliasDeclaration {name : Text} (plain : IsPlain name) {node : Node}
    (names : node.HasPlainNames) :
    Agree (Option.Rel Similar) (aliasDeclaration name node)
      (aliasDeclaration name node.redacted) := by
  apply (agree_typeOf (by simp) node names).bind
  intro left right alike
  cases alike with
  | none => exact .success .none
  | some alike =>
      have opening : Balanced (("export type " ++ name) ++ " = ") :=
        (Reads.append (fun _ => rfl) plain.balanced).append fun _ => rfl
      have semicolon : Balanced ";" := fun _ => rfl
      exact .success (.some ((Alike.reads_append opening alike.similar).append_reads semicolon))

/-! ## Declarers -/

/-- A declarer to which descriptions make no difference. -/
def Ignores (declarer : Declarer Unwritable) : Prop :=
  ∀ {name : Text} {node : Node}, IsPlain name → node.HasPlainNames →
    Agree (Option.Rel Similar) (declarer name node) (declarer name node.redacted)

theorem ignores_declarerWhere {recognises : Facets → Bool}
    {declare : Text → Facets → Option Node → Option (List (Text × Node)) →
      Except Unwritable (Option Text)}
    (same : ∀ facets : Facets, recognises facets.redacted = recognises facets)
    (declares : ∀ {name facets items properties}, IsPlain name →
      Node.HasPlainNames (.inline facets items properties) →
      Agree (Option.Rel Similar) (declare name facets items properties)
        (declare name facets.redacted (redactedItems items) (redactedProperties properties))) :
    Ignores (declarerWhere recognises declare) := by
  intro name node plain names
  cases node with
  | reference _ => exact .success .none
  | inline facets items properties =>
      unfold declarerWhere Node.redacted
      dsimp only
      rw [same]
      split
      · exact declares plain names
      · exact .success .none

private theorem ignores_declareObject : Ignores declareObject := by
  apply ignores_declarerWhere fun _ => rfl
  intro name facets items properties plain names
  have fields : ∀ field ∈ properties.getD [], field.2.HasPlainNames := by
    cases properties with
    | none => simp
    | some properties => exact names.properties properties rfl
  have redacted : (redactedProperties properties).getD [] =
      redactedFields (properties.getD []) := by
    cases properties <;> rfl
  rw [redacted]
  exact (agree_classDeclaration plain fields).map .some

private theorem ignores_declareEnum : Ignores declareEnum := by
  apply ignores_declarerWhere fun _ => rfl
  intro name facets items properties plain names
  dsimp only [Facets.redacted]
  split
  · exact (agree_enumDeclaration plain _).map .some
  · exact agree_aliasDeclaration plain names
  · exact agree_aliasDeclaration plain names
  · exact .success .none

private theorem ignores_declareAlias : Ignores declareAlias :=
  ignores_declarerWhere (fun _ => rfl) fun plain names => agree_aliasDeclaration plain names

/-! ## Chains -/

private theorem agree_dispatch {name : Text} {node : Node} (plain : IsPlain name)
    (names : node.HasPlainNames) {declarers : List (Declarer Unwritable)}
    (ignores : ∀ declarer ∈ declarers, Ignores declarer) :
    Agree (Option.Rel Similar) (Chain.dispatch name node declarers).answer
      (Chain.dispatch name node.redacted declarers).answer := by
  induction declarers with
  | nil => exact .success .none
  | cons declarer rest induction =>
      have ⟨first, others⟩ := List.forall_mem_cons.mp ignores
      have later := induction others
      have answers := first plain names
      unfold Chain.dispatch
      generalize declarer name node = left at answers
      generalize declarer name node.redacted = right at answers
      cases answers with
      | failure reason => exact .failure reason
      | success results =>
          cases results with
          | none => exact later
          | some similar => exact .success (.some similar)

private theorem agree_renderEach {schemas : List (Text × Node)}
    (names : ∀ schema ∈ schemas, isIdentifier schema.1 ∧ schema.2.HasPlainNames)
    {chain : Chain Unwritable} (ignores : ∀ declarer ∈ chain.declarers, Ignores declarer) :
    Agree (List.Forall₂ Similar) (chain.renderEach schemas).declarations
      (chain.renderEach (mapValues Node.redacted schemas)).declarations := by
  induction schemas with
  | nil => exact .success .nil
  | cons schema rest induction =>
      obtain ⟨name, node⟩ := schema
      have ⟨⟨identifier, plain⟩, others⟩ := List.forall_mem_cons.mp names
      have later := induction others
      have answers := agree_dispatch (isPlain_of_isIdentifier identifier) plain ignores
      change Agree _ (chain.renderEach _).declarations
        (chain.renderEach ((name, node.redacted) :: mapValues Node.redacted rest)).declarations
      unfold Chain.renderEach Chain.renderOne
      generalize Chain.dispatch name node chain.declarers = left at answers
      generalize Chain.dispatch name node.redacted chain.declarers = right at answers
      obtain ⟨_, left⟩ := left
      obtain ⟨_, right⟩ := right
      cases answers with
      | failure reason => exact .failure reason
      | success results =>
          cases results with
          | none => exact later
          | some similar => exact later.map fun declarations => .cons similar declarations

private theorem ignores_of_mem_defaultDeclarers :
    ∀ declarer ∈ defaultDeclarers, Ignores declarer := by
  intro declarer member
  rcases List.mem_cons.mp member with rfl | member
  · exact ignores_declareObject
  rcases List.mem_cons.mp member with rfl | member
  · exact ignores_declareEnum
  rcases List.mem_cons.mp member with rfl | member
  · exact ignores_declareAlias
  · cases member

theorem agree_renderModels {schemas : List (Text × Node)}
    (names : ∀ schema ∈ schemas, isIdentifier schema.1 ∧ schema.2.HasPlainNames) :
    Agree Similar (renderModels schemas).outcome
      (renderModels (mapValues Node.redacted schemas)).outcome := by
  have texts : Agree Similar ((Chain.mk defaultDeclarers).render schemas).outcome
      ((Chain.mk defaultDeclarers).render (mapValues Node.redacted schemas)).outcome :=
    (agree_renderEach names ignores_of_mem_defaultDeclarers).map
      (similar_joined fun _ => rfl)
  have lineEnd : Balanced "\n" := fun _ => rfl
  rw [renderModels, renderModels, Logged.outcome_bind, Logged.outcome_bind]
  apply texts.bind
  intro left right similar
  have head := similar.head?_eq
  have empty : left.isEmpty = right.isEmpty := by
    cases left <;> cases right <;> simp_all
  apply Agree.success
  rw [empty]
  split
  · exact Reads.alike fun _ => rfl
  · exact similar.append_reads lineEnd

end ApiClient.Code
