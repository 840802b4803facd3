import ApiClient.Proofs.Api.Collection
import ApiClient.Proofs.Code.Headers

/-! Names that stand in code without quotes. They are the identifiers, and the identifiers with
a line feed behind them. Code that has such a name as a key or selects a member by it means the
identifier, so the two are the same name only without the line feed. -/

namespace ApiClient.Code

/-! ## Names without quotes -/

/-- An identifier, with at most one line feed behind it. -/
def IsBare (name : Text) : Prop :=
  isWholeIdentifier name ∨ ∃ whole, isWholeIdentifier whole ∧ name = whole ++ ("\n" : Text)

theorem isIdentifier_iff_isBare {name : Text} : isIdentifier name ↔ IsBare name := by
  constructor
  · intro identifier
    obtain ⟨whole, isWhole, rfl | rfl⟩ := isIdentifier_cases identifier
    · exact .inl isWhole
    · exact .inr ⟨whole, isWhole, rfl⟩
  · rintro (whole | ⟨whole, isWhole, rfl⟩)
    · exact isIdentifier_of_isWholeIdentifier whole
    · exact isIdentifier_lineFeed isWhole

/-- The name that code means by a name without quotes is the name itself only where it is an
identifier. -/
theorem keyName_eq_self_iff {name : Text} (bare : IsBare name) :
    keyName name = name ↔ isWholeIdentifier name := by
  refine ⟨fun same => ?_, keyName_whole⟩
  obtain whole | ⟨whole, isWhole, rfl⟩ := bare
  · exact whole
  · rw [keyName_lineFeed isWhole] at same
    rwa [← same]

/-! ## Keys -/

/-- Code in which a key stands for a name, whatever follows it that does not go on with an
identifier. -/
def DenotesKey (text name : Text) : Prop :=
  ∀ rest, EndsIdentifier rest → readKey? (text ++ rest) = some (name, skipSpace rest)

section

variable {text name other : Text}

private theorem DenotesKey.unique (denotes : DenotesKey text name)
    (denotesOther : DenotesKey text other) :
    name = other := by
  have ends : EndsIdentifier [] := nofun
  exact (Prod.mk.inj (Option.some.inj ((denotes [] ends).symm.trans (denotesOther [] ends)))).1

private theorem denotesKey_propertyKey (name : Text) :
    DenotesKey (propertyKey name) (keyName name) :=
  fun _ ends => readKey?_propertyKey name ends

private theorem quoted_ne_self (name : Text) : quoted name ≠ name := by
  intro same
  have shown : (quoted name).length = 1 + (Text.Literal.body name).length + 1 := by
    rw [quoted, Text.Literal.encode, List.length_append, List.length_append]
    rfl
  have body := Text.Literal.length_le_body name
  rw [same] at shown
  omega

private theorem propertyKey_eq_self_iff : propertyKey name = name ↔ IsBare name := by
  rw [← isIdentifier_iff_isBare, propertyKey]
  by_cases identifier : isIdentifier name
  · rw [if_pos identifier]
    exact iff_of_true rfl identifier
  · rw [if_neg identifier]
    exact iff_of_false (quoted_ne_self name) identifier

end

/-! ## Members -/

/-- Code that selects a member by a name, whatever follows it that does not go on with an
identifier. -/
def DenotesMember (text name : Text) : Prop :=
  ∀ rest, EndsIdentifier rest →
    ∃ after, readSelector? (text ++ rest) = some (name, after) ∧ skipSpace after = skipSpace rest

/-- How a member of an object is selected. -/
def selector (name : Text) : Text :=
  if isIdentifier name then "." ++ name else "[" ++ (quoted name ++ "]")

section

variable {text name other : Text}

theorem memberAccess_eq (target name : Text) :
    memberAccess target name = target ++ selector name := by
  rw [memberAccess, selector]
  split
  · rw [List.append_assoc]
  · rw [List.append_assoc, List.append_assoc]

private theorem DenotesMember.unique (denotes : DenotesMember text name)
    (denotesOther : DenotesMember text other) : name = other := by
  have ends : EndsIdentifier [] := nofun
  obtain ⟨after, read, -⟩ := denotes [] ends
  obtain ⟨otherAfter, otherRead, -⟩ := denotesOther [] ends
  exact (Prod.mk.inj (Option.some.inj (read.symm.trans otherRead))).1

private theorem selector_eq_dot_iff : selector name = "." ++ name ↔ IsBare name := by
  rw [← isIdentifier_iff_isBare, selector]
  by_cases identifier : isIdentifier name
  · rw [if_pos identifier]
    exact iff_of_true rfl identifier
  · rw [if_neg identifier]
    refine iff_of_false (fun same => ?_) identifier
    exact absurd (List.cons.inj same).1 (by decide)

private theorem denotesMember_selector (name : Text) :
    DenotesMember (selector name) (keyName name) := by
  intro rest ends
  rw [selector]
  by_cases identifier : isIdentifier name
  · rw [if_pos identifier]
    exact ⟨skipSpace rest, readIdentifier?_append identifier ends, skipSpace_skipSpace rest⟩
  · rw [if_neg identifier, keyName, if_neg identifier]
    refine ⟨rest, ?_, rfl⟩
    rw [List.append_assoc, List.append_assoc]
    exact readIndex?_quoted name rest

end

/-! ## Operation ids -/

private theorem checked_eq_ok_iff_isBare {operation : Operation} {path method operationId : Text}
    {tags : List Text} :
    operation.checked path method = .ok (operationId, tags) ↔
      operation.operationId = some operationId ∧ IsBare operationId ∧ operation.tags = some tags ∧
        tags ≠ [] := by
  have identified : operation.checked path method = .ok (operationId, tags) ↔
      PlacedOperation.IsIdentified ⟨path, method, [], operation⟩ operationId tags :=
    @PlacedOperation.checked_eq_ok_iff ⟨path, method, [], operation⟩ operationId tags
  refine identified.trans ⟨fun found => ?_, fun ⟨given, bare, tagged, someTag⟩ => ?_⟩
  · exact ⟨found.given, isIdentifier_iff_isBare.mp found.identifier, found.tagged, found.someTag⟩
  · have identifier := isIdentifier_iff_isBare.mpr bare
    refine ⟨given, ?_, tagged, someTag, identifier⟩
    rintro rfl
    exact Bool.noConfusion identifier

/-- Each operation gives its operation id to its endpoint. -/
theorem forall₂_operationId {document : Document} {space : Option Text} {endpoints : List Endpoint}
    (succeeds : (document.endpoints space).outcome = .ok endpoints) :
    List.Forall₂ (fun placed endpoint =>
        placed.operation.operationId = some endpoint.operationId ∧ IsBare endpoint.operationId)
      document.placedOperations endpoints := by
  have run : (document.endpoints space).outcome =
      document.placedOperations.mapM (·.endpoint document space) :=
    outcome_endpointsOf document space _
  rw [run, mapM_eq_ok_iff] at succeeds
  refine succeeds.imp fun placed endpoint ofPlaced => ?_
  have identified := (PlacedOperation.yields_of_endpoint ofPlaced).identified
  exact ⟨identified.given, isIdentifier_iff_isBare.mp identified.identifier⟩

/-- The names that count as identifiers are the identifiers and the identifiers with one line
feed behind them. An operation is accepted only with such an operation id, and its endpoint
has that one. Keys and members have such names without quotes, and no others. In code every
key and every member stands for its name, except that the line feed behind an identifier is no
part of what the code says. -/
theorem identifiers_exact (name : Text) :
    (isIdentifier name ↔ IsBare name) ∧
    (∀ (operation : Operation) path method operationId tags,
      operation.checked path method = .ok (operationId, tags) ↔
        operation.operationId = some operationId ∧ IsBare operationId ∧ operation.tags = some tags ∧
          tags ≠ []) ∧
    (∀ (document : Document) space endpoints, (document.endpoints space).outcome = .ok endpoints →
      List.Forall₂ (fun placed endpoint =>
          placed.operation.operationId = some endpoint.operationId ∧ IsBare endpoint.operationId)
        document.placedOperations endpoints) ∧
    (propertyKey name = name ↔ IsBare name) ∧
    (∀ denoted, DenotesKey (propertyKey name) denoted ↔ denoted = keyName name) ∧
    (∀ target, memberAccess target name = target ++ selector name) ∧
    (selector name = "." ++ name ↔ IsBare name) ∧
    (∀ denoted, DenotesMember (selector name) denoted ↔ denoted = keyName name) ∧
    (keyName name = name ↔ (IsBare name → isWholeIdentifier name)) := by
  refine ⟨isIdentifier_iff_isBare, fun _ _ _ _ _ => checked_eq_ok_iff_isBare,
    fun _ _ _ => forall₂_operationId, propertyKey_eq_self_iff, fun denoted => ?_,
    fun target => memberAccess_eq target name, selector_eq_dot_iff, fun denoted => ?_, ?_⟩
  · refine ⟨fun denotes => denotes.unique (denotesKey_propertyKey name), ?_⟩
    rintro rfl
    exact denotesKey_propertyKey name
  · refine ⟨fun denotes => denotes.unique (denotesMember_selector name), ?_⟩
    rintro rfl
    exact denotesMember_selector name
  · by_cases bare : IsBare name
    · rw [keyName_eq_self_iff bare, forall_prop_of_true bare]
    · have notIdentifier := mt isIdentifier_iff_isBare.mp bare
      exact iff_of_true (if_neg notIdentifier) fun isBare => absurd isBare bare

/-- Both operations of a document are accepted with their identifiers. -/
theorem identifiers_exact_sharedParts :
    (Document.sharedParts.endpoints none).outcome = .ok [Document.putShared, Document.getShared] ∧
      List.Forall₂ (fun placed endpoint =>
          placed.operation.operationId = some endpoint.operationId ∧ IsBare endpoint.operationId)
        Document.sharedParts.placedOperations [Document.putShared, Document.getShared] := by
  obtain ⟨-, -, collected, -⟩ := identifiers_exact "set"
  exact ⟨Document.endpoints_sharedParts,
    collected Document.sharedParts none _ Document.endpoints_sharedParts⟩

/-- A line feed behind an operation id is not noticed, and the method has the name without it. -/
theorem identifiers_lineFeed :
    let name : Text := "a\n"
    ¬isWholeIdentifier name ∧ isIdentifier name ∧
      Operation.checked "/" "get" { operationId := some name, tags := some ["t"] } =
        .ok (name, ["t"]) ∧
      propertyKey name = name ∧ ¬DenotesKey name name ∧ DenotesKey name "a" ∧
      memberAccess "path" name = "path." ++ name ∧ ¬DenotesMember ("." ++ name) name ∧
      DenotesMember ("." ++ name) "a" := by
  intro name
  have ofKey : DenotesKey name "a" := denotesKey_propertyKey name
  have ofMember : DenotesMember ("." ++ name) "a" := denotesMember_selector name
  have ne : ("a" : Text) ≠ name := by decide
  exact ⟨by decide, rfl, rfl, rfl, fun same => ne (ofKey.unique same), ofKey, rfl,
    fun same => ne (ofMember.unique same), ofMember⟩

end ApiClient.Code
