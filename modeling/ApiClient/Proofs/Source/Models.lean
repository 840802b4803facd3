import ApiClient.Proofs.Document.Values
import ApiClient.Proofs.Source.Chain

/-! The module of declarations. With values of JSON there is a declaration for every schema that is
written in place and has a kind, by one of the three declarers, and for no other. -/

namespace ApiClient

/-! ## Chains whose declarers do not fail -/

namespace Chain

variable {ε : Type} (chain : Chain ε)

/-- Where it is known which schemas are answered, a run leaves one declaration for each of them
and one message for each of the others, both in order. -/
theorem renderEach_of_answers {schemas : List (Text × Node)} {answers : Text × Node → Bool}
    {declares : Text × Node → Text → Prop}
    (answered : ∀ schema ∈ schemas, answers schema →
      ∃ declaration, (chain.renderOne schema.1 schema.2).answer = .ok (some declaration) ∧
        declares schema declaration)
    (unanswered : ∀ schema ∈ schemas, answers schema = false →
      (chain.renderOne schema.1 schema.2).answer = .ok none) :
    ∃ declarations, (chain.renderEach schemas).declarations = .ok declarations ∧
      List.Forall₂ (fun schema declaration =>
          (chain.renderOne schema.1 schema.2).answer = .ok (some declaration) ∧
            declares schema declaration)
        (schemas.filter answers) declarations ∧
      (chain.renderEach schemas).log =
        (schemas.filter (!answers ·)).map fun schema => skipped schema.1 := by
  induction schemas with
  | nil => exact ⟨[], rfl, .nil, rfl⟩
  | cons schema rest induction =>
      obtain ⟨firstAnswered, othersAnswered⟩ := List.forall_mem_cons.mp answered
      obtain ⟨firstUnanswered, othersUnanswered⟩ := List.forall_mem_cons.mp unanswered
      obtain ⟨declarations, later, alike, log⟩ := induction othersAnswered othersUnanswered
      obtain ⟨name, node⟩ := schema
      by_cases isAnswered : answers (name, node)
      · obtain ⟨declaration, answer, isDeclared⟩ := firstAnswered isAnswered
        refine ⟨declaration :: declarations, ?_, ?_, ?_⟩
        · rw [declarations_renderEach_cons, answer, later]
          rfl
        · rw [List.filter_cons_of_pos isAnswered]
          exact .cons ⟨answer, isDeclared⟩ alike
        · rw [List.filter_cons_of_neg (by simp [isAnswered]), ← log, renderEach, answer]
      · have answer := firstUnanswered (by simpa using isAnswered)
        refine ⟨declarations, ?_, ?_, ?_⟩
        · rw [declarations_renderEach_cons, answer, later]
          rfl
        · rw [List.filter_cons_of_neg isAnswered]
          exact alike
        · rw [List.filter_cons_of_pos (by simp [isAnswered]), List.map_cons, ← log, renderEach,
            answer]

end Chain

/-! ## Schemas with a kind -/

/-- A schema that is written in place and says of what kind its values are. -/
def Node.isTyped : Node → Bool
  | .inline facets _ _ => facets.kind.isSome
  | .reference _ => false

/-- Objects are declared as classes, listed texts as enumerations, and everything
else as the name of its type. -/
inductive Node.DeclaredAs (name : Text) : Node → Text → Prop where
  | object {facets : Facets} (items : Option Node) (properties : Option (List (Text × Node)))
      (kind : facets.kind = some .object) (body : Text) :
      DeclaredAs name (.inline facets items properties)
        ("export class " ++ name ++ " \x7b" ++ body ++ "\x7d")
  | texts {facets : Facets} (items : Option Node) (properties : Option (List (Text × Node)))
      (kind : facets.kind = some .string) (listed : facets.members.isSome) (body : Text) :
      DeclaredAs name (.inline facets items properties)
        ("export enum " ++ name ++ " \x7b" ++ body ++ "\x7d")
  | other {facets : Facets} {items : Option Node} {properties : Option (List (Text × Node))}
      (notObject : facets.kind ≠ some .object)
      (notTexts : facets.kind = some .string → facets.members = none) {type : Text}
      (written : typeOf none (.inline facets items properties) = .ok (some type)) :
      DeclaredAs name (.inline facets items properties)
        ("export type " ++ name ++ " = " ++ type ++ ";")

private theorem Node.DeclaredAs.ne_nil {name text : Text} {node : Node}
    (declared : node.DeclaredAs name text) :
    text ≠ [] := by
  cases declared <;> exact List.cons_ne_nil _ _

/-! ### Classes -/

private theorem exists_defaultLiteral {node : Node} (json : node.HasJsonDefaults) :
    ∃ text, defaultLiteral node = .ok text := by
  have written {value : Value} (json : value.IsJson) :
      ∃ text, some <$> literal value = .ok text := by
    obtain ⟨text, written⟩ := json.exists_literal
    exact ⟨some text, by rw [written]; rfl⟩
  cases json with
  | reference pointer => exact ⟨none, rfl⟩
  | inline default _ _ =>
      rw [defaultLiteral]
      split
      all_goals first | exact written (default _ ‹_›) | exact ⟨none, rfl⟩

private theorem exists_bindingTexts {properties : List (Text × Node)}
    (json : ∀ field ∈ properties, field.2.HasJsonDefaults) :
    ∃ texts, bindingTexts properties = .ok texts := by
  apply exists_mapM_eq_ok_iff.mpr
  rintro ⟨name, node⟩ member
  obtain ⟨default, written⟩ := exists_defaultLiteral (json _ member)
  dsimp only at written ⊢
  exact ⟨bindingText name default, by rw [written]; rfl⟩

private theorem exists_classDeclaration (name : Text) {properties : List (Text × Node)}
    (values : ∀ field ∈ properties, field.2.HasJsonValues)
    (defaults : ∀ field ∈ properties, field.2.HasJsonDefaults) :
    ∃ body, classDeclaration name properties =
      .ok ("export class " ++ name ++ " \x7b" ++ body ++ "\x7d") := by
  rw [classDeclaration]
  split
  · refine ⟨"\n  constructor() \x7b\x7d\n", ?_⟩
    simp only [List.append_assoc]
    rfl
  · obtain ⟨fields, ofFields⟩ := exists_fieldTexts fun field member =>
      (values field member).exists_typeOf none
    obtain ⟨bindings, ofBindings⟩ := exists_bindingTexts defaults
    refine ⟨"\n" ++ indented (lines fields) ++ "\n\n" ++
      indented (constructorText (lines fields) bindings properties) ++ "\n", ?_⟩
    rw [renderFields, ofFields, ofBindings]
    simp only [List.append_assoc]
    rfl

/-! ### Enumerations and other types -/

private theorem Value.IsJson.exists_memberOf {value : Value} (json : value.IsJson) :
    ∃ text, memberOf value = .ok text := by
  obtain ⟨text, written⟩ := json.exists_textLiteral
  rw [textLiteral] at written
  split at written
  · rename_i text asText
    exact ⟨memberText text, by rw [memberOf, asText]⟩
  · cases written

private theorem exists_enumDeclaration (name : Text) {members : List Value}
    (json : ∀ member ∈ members, member.IsJson) :
    ∃ body, enumDeclaration name members =
      .ok ("export enum " ++ name ++ " \x7b" ++ body ++ "\x7d") := by
  obtain ⟨texts, written⟩ : ∃ texts, (members.filter (!isNull ·)).mapM memberOf = .ok texts := by
    apply exists_mapM_eq_ok_iff.mpr
    intro member among
    exact (json member (List.mem_of_mem_filter among)).exists_memberOf
  rw [enumDeclaration, written]
  cases texts with
  | nil =>
      refine ⟨[], ?_⟩
      simp only [List.append_assoc]
      rfl
  | cons text rest =>
      refine ⟨"\n" ++ indented (lines (text :: rest)) ++ "\n", ?_⟩
      simp only [List.append_assoc]
      rfl

/-- Only an object can have a kind and no type. -/
theorem isSome_of_typeOf {facets : Facets} {items : Option Node}
    {properties : Option (List (Text × Node))} (typed : facets.kind.isSome)
    (notObject : facets.kind ≠ some .object) {type : Option Text}
    (written : typeOf none (.inline facets items properties) = .ok type) : type.isSome := by
  rw [typeOf] at written
  split at written
  · simp_all
  · obtain ⟨_, _, ⟨⟩⟩ := exists_of_bind_eq_ok written
    rfl
  · contradiction
  · split at written
    · obtain ⟨_, _, ⟨⟩⟩ := exists_of_map_eq_ok written
      rfl
    · cases written
      rfl
  · cases written
    rfl

private theorem Node.HasJsonValues.exists_aliasDeclaration (name : Text) {facets : Facets}
    {items : Option Node} {properties : Option (List (Text × Node))}
    (json : Node.HasJsonValues (.inline facets items properties)) (typed : facets.kind.isSome)
    (notObject : facets.kind ≠ some .object) :
    ∃ type, typeOf none (.inline facets items properties) = .ok (some type) ∧
      aliasDeclaration name (.inline facets items properties) =
        .ok (some ("export type " ++ name ++ " = " ++ type ++ ";")) := by
  obtain ⟨type, written⟩ := json.exists_typeOf none
  obtain ⟨type, rfl⟩ := Option.isSome_iff_exists.mp (isSome_of_typeOf typed notObject written)
  exact ⟨type, written, by rw [aliasDeclaration, written]; rfl⟩

/-! ## Answers -/

section

variable {name : Text} {facets : Facets} {items : Option Node}
  {properties : Option (List (Text × Node))}

private theorem declareObject_of_ne (notObject : facets.kind ≠ some .object) :
    declareObject name (.inline facets items properties) = .ok none := by
  rw [declareObject, declarerWhere, if_neg (by simpa using notObject)]

/-- A list of anything but texts is no enumeration. If its declarer answers, then like the
one for all other schemas. -/
theorem declareEnum_cases (notTexts : facets.kind = some .string → facets.members = none) :
    declareEnum name (.inline facets items properties) = .ok none ∨
      declareEnum name (.inline facets items properties) =
        aliasDeclaration name (.inline facets items properties) := by
  rw [declareEnum, declarerWhere]
  split
  · rename_i listed
    split
    · rename_i kind
      simp [notTexts kind] at listed
    · exact .inr rfl
    · exact .inr rfl
    · exact .inl rfl
  · exact .inl rfl

private theorem declareAlias_of_isSome (typed : facets.kind.isSome)
    (notObject : facets.kind ≠ some .object) :
    declareAlias name (.inline facets items properties) =
      aliasDeclaration name (.inline facets items properties) := by
  rw [declareAlias, declarerWhere, if_pos (by simp [typed, notObject])]

end

private theorem renderOne_of_not_isTyped (name : Text) {node : Node}
    (untyped : node.isTyped = false) :
    ((Chain.mk defaultDeclarers).renderOne name node).answer = .ok none := by
  cases node with
  | reference pointer => rfl
  | inline facets items properties =>
      have kind : facets.kind = none := by simpa [Node.isTyped] using untyped
      have byEnum : declareEnum name (.inline facets items properties) = .ok none := by
        rw [declareEnum, declarerWhere, kind, ite_self]
      have byAlias : declareAlias name (.inline facets items properties) = .ok none := by
        rw [declareAlias, declarerWhere, if_neg (by simp [kind])]
      rw [Chain.renderOne, defaultDeclarers,
        Chain.answer_dispatch_of_none (declareObject_of_ne (by simp [kind])),
        Chain.answer_dispatch_of_none byEnum, Chain.answer_dispatch_of_none byAlias]
      rfl

private theorem exists_renderOne (name : Text) {node : Node} (typed : node.isTyped)
    (values : node.HasJsonValues) (defaults : node.HasJsonDefaults) :
    ∃ declaration, ((Chain.mk defaultDeclarers).renderOne name node).answer =
      .ok (some declaration) ∧ node.DeclaredAs name declaration := by
  have json := values
  obtain _ | @⟨facets, items, properties, ofMembers, ofItems, ofProperties⟩ := values
  · cases typed
  · obtain _ | ⟨-, -, ofDefaults⟩ := defaults
    by_cases object : facets.kind = some .object
    · obtain ⟨body, written⟩ :=
        exists_classDeclaration name (forall_mem_getD ofProperties) (forall_mem_getD ofDefaults)
      refine ⟨_, Chain.answer_dispatch_of_some ?_ _, .object items properties object body⟩
      rw [declareObject, declarerWhere, if_pos (by simp [object]), written]
      rfl
    · rw [Chain.renderOne, defaultDeclarers,
        Chain.answer_dispatch_of_none (declareObject_of_ne object)]
      by_cases texts : facets.kind = some .string ∧ facets.members.isSome
      · obtain ⟨body, written⟩ := exists_enumDeclaration name (forall_mem_getD ofMembers)
        refine ⟨_, Chain.answer_dispatch_of_some ?_ _, .texts items properties texts.1 texts.2 body⟩
        rw [declareEnum, declarerWhere, if_pos texts.2, texts.1, written]
        rfl
      · have notTexts : facets.kind = some .string → facets.members = none := by
          simpa using texts
        obtain ⟨type, ofNode, written⟩ := json.exists_aliasDeclaration name typed object
        refine ⟨_, ?_, .other object notTexts ofNode⟩
        have byAlias : declareAlias name (.inline facets items properties) =
            .ok (some ("export type " ++ name ++ " = " ++ type ++ ";")) :=
          (declareAlias_of_isSome typed object).trans written
        rcases declareEnum_cases notTexts with passes | byEnum
        · rw [Chain.answer_dispatch_of_none passes, Chain.answer_dispatch_of_some byAlias]
        · rw [Chain.answer_dispatch_of_some (byEnum.trans written)]

/-! ## Modules -/

private theorem log_renderModels (schemas : List (Text × Node)) :
    (renderModels schemas).log = ((Chain.mk defaultDeclarers).renderEach schemas).log := by
  rw [renderModels, Chain.render, Chain.Rendering.text]
  cases ((Chain.mk defaultDeclarers).renderEach schemas).declarations with
  | error failure => rfl
  | ok declarations => exact List.append_nil _

private theorem moduleText_of_nonempty {declarations : List Text}
    (nonempty : ∀ declaration ∈ declarations, declaration ≠ []) :
    moduleText declarations =
      if declarations.isEmpty then [] else joined blankLine declarations ++ ("\n" : Text) := by
  cases declarations with
  | nil => rfl
  | cons declaration rest =>
      have first := nonempty declaration List.mem_cons_self
      rw [moduleText, joined_cons]
      simp [first]

/-- The module of declarations holds one declaration for each schema that is written in place
and has a kind, in the order of the schemas, with a blank line between two of them and a line
feed at the end. There is one message for each of the other schemas, in their order. -/
theorem renderModels_declared {schemas : List (Text × Node)}
    (json : ∀ schema ∈ schemas, schema.2.IsFromJson) :
    ∃ declarations : List Text,
      List.Forall₂ (fun schema declaration =>
          ((Chain.mk defaultDeclarers).renderOne schema.1 schema.2).answer =
            .ok (some declaration) ∧
            schema.2.DeclaredAs schema.1 declaration)
        (schemas.filter (·.2.isTyped)) declarations ∧
      (renderModels schemas).outcome =
        .ok (if declarations.isEmpty then [] else joined "\n\n" declarations ++ "\n") ∧
      (renderModels schemas).log =
        (schemas.filter (!·.2.isTyped)).map fun schema => Chain.skipped schema.1 := by
  have typed : ∀ schema ∈ schemas, schema.2.isTyped → ∃ declaration,
      ((Chain.mk defaultDeclarers).renderOne schema.1 schema.2).answer = .ok (some declaration) ∧
        schema.2.DeclaredAs schema.1 declaration := by
    intro schema member typed
    have ofNode := json schema member
    exact exists_renderOne schema.1 typed ofNode.hasJsonValues ofNode.hasJsonDefaults
  have untyped : ∀ schema ∈ schemas, schema.2.isTyped = false →
      ((Chain.mk defaultDeclarers).renderOne schema.1 schema.2).answer = .ok none :=
    fun schema _ untyped => renderOne_of_not_isTyped schema.1 untyped
  obtain ⟨declarations, ofSchemas, alike, log⟩ :=
    (Chain.mk defaultDeclarers).renderEach_of_answers typed untyped
  refine ⟨declarations, alike, ?_, (log_renderModels schemas).trans log⟩
  have nonempty : ∀ declaration ∈ declarations, declaration ≠ [] :=
    forall_mem_right_of_forall₂ alike fun schema _ declaration declared => declared.2.ne_nil
  rw [outcome_renderModels, ApiClient.declarations, ofSchemas]
  exact congrArg Except.ok (moduleText_of_nonempty nonempty)

/-- Schemas for a class, an enumeration and a name, among others that have no kind. -/
def mixedSchemas : List (Text × Node) :=
  [("Pet", .inline { kind := some .object } none
      (some [("id", .inline { default := some (.int 1) } none none)])),
    ("Same", .reference "Pet"),
    ("Mood", .inline { kind := some .string, members := some [.text "a-b", .null] } none none),
    ("Any", .inline { members := some [.int 1] } none none),
    ("Flag", .inline { kind := some .boolean } none none)]

def mixedData : Value :=
  .map [
    (.text "Pet", .map [
      (.text "type", .text "object"),
      (.text "properties", .map [(.text "id", .map [(.text "default", .int 1)])])]),
    (.text "Same", .map [(.text "$ref", .text "Pet")]),
    (.text "Mood", .map [
      (.text "type", .text "string"), (.text "enum", .list [.text "a-b", .null])]),
    (.text "Any", .map [(.text "enum", .list [.int 1])]),
    (.text "Flag", .map [(.text "type", .text "boolean")])]

private theorem isFromJson_mixedSchemas : ∀ schema ∈ mixedSchemas, schema.2.IsFromJson := by
  have one : (Value.int 1).IsJson := .int (by norm_num [Value.digitLimit])
  have json : mixedData.IsJson := by
    simp [mixedData, one, Text.ofString_inj]
  have ensures := ensures_checkMapping json fun _ => ensures_checkNode_isFromJson
  obtain ⟨fields, isExact, accepted⟩ : ∃ fields isExact,
      checkMapping checkNode mixedData = .accepted mixedSchemas fields isExact := ⟨_, _, rfl⟩
  exact (ensures.of_accepted accepted).2

theorem renderModels_declared_mixedSchemas :
    (∀ schema ∈ mixedSchemas, schema.2.IsFromJson) ∧
    ∃ pet mood flag, (renderModels mixedSchemas).outcome =
        .ok (joined "\n\n" [pet, mood, flag] ++ "\n") ∧
      Node.DeclaredAs "Pet" (.inline { kind := some .object } none
        (some [("id", .inline { default := some (.int 1) } none none)])) pet ∧
      Node.DeclaredAs "Mood" (.inline
        { kind := some .string, members := some [.text "a-b", .null] } none none) mood ∧
      Node.DeclaredAs "Flag" (.inline { kind := some .boolean } none none) flag ∧
      (renderModels mixedSchemas).log = [Chain.skipped "Same", Chain.skipped "Any"] := by
  obtain ⟨declarations, declared, text, log⟩ := renderModels_declared isFromJson_mixedSchemas
  obtain _ | ⟨⟨_, pet⟩, declared⟩ := declared
  obtain _ | ⟨⟨_, mood⟩, declared⟩ := declared
  obtain _ | ⟨⟨_, flag⟩, ⟨⟩⟩ := declared
  exact ⟨isFromJson_mixedSchemas, _, _, _, text, pet, mood, flag, log⟩

end ApiClient
