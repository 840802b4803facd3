import ApiClient.Proofs.Code.DocComments
import ApiClient.Proofs.Document.Names
import ApiClient.Proofs.Document.Redaction

/-! Type expressions with and without descriptions. The decisions that are taken by looking at a
type, whether it needs parentheses or a line of its own, do not depend on the descriptions inside:
only an object type can hold one, and it is recognised by its bracket and by the end of its first
line. -/

namespace ApiClient.Code

/-- Types that differ at most in what their comments say, and not at all unless they are object
types. -/
structure AlikeTypes (left right : Text) : Prop where
  similar : Similar left right
  objects : left = right ∨ left.head? = some (.char '\x7b')

namespace AlikeTypes

theorem refl {type : Text} (balanced : Balanced type) : AlikeTypes type type where
  similar := balanced.alike
  objects := .inl rfl

private theorem arrayOf_eq {type : Text} (bracket : type.head? = some (.char '\x7b')) :
    arrayOf type = type ++ "[]" := by
  rw [arrayOf, bracket]
  simp

private theorem arrayOf {left right : Text} (alike : AlikeTypes left right) :
    AlikeTypes (arrayOf left) (arrayOf right) := by
  have brackets : Balanced "[]" := fun _ => rfl
  rcases alike.objects with rfl | bracket
  · have balanced := alike.similar.left_reads
    apply AlikeTypes.refl
    rw [ApiClient.arrayOf]
    split
    · exact balanced.enclosed (fun _ => rfl) (fun _ => rfl)
    · exact balanced.append brackets
  · rw [arrayOf_eq bracket, arrayOf_eq (alike.similar.head?_eq ▸ bracket)]
    refine ⟨alike.similar.append_reads brackets, .inr ?_⟩
    rw [List.head?_append, bracket]
    rfl

end AlikeTypes

/-! ## Types without parts -/

private theorem balanced_basicType (kind : Kind) (format : Option Text) :
    Balanced (basicType kind format) := by
  cases kind with
  | string =>
      rw [basicType]
      split <;> exact fun _ => rfl
  | _ => exact fun _ => rfl

private theorem balanced_memberLiteral {kind : Kind} {member : Value} {text : Text}
    (written : memberLiteral kind member = .ok text) : Balanced text := by
  unfold memberLiteral at written
  split at written
  · cases written
    exact fun _ => rfl
  · exact balanced_textLiteral written
  · exact balanced_literal written

private theorem balanced_literalUnion {kind : Kind} {members : List Value} {text : Text}
    (written : literalUnion kind members = .ok text) : Balanced text := by
  unfold literalUnion at written
  split at written
  · cases written
    exact fun _ => rfl
  · obtain ⟨literals, ofMembers, rfl⟩ := exists_of_map_eq_ok written
    exact balanced_joined (fun _ => rfl)
      (forall_mem_of_mapM_eq_ok balanced_memberLiteral ofMembers)

private theorem balanced_qualified {space : Option Text} (plain : ∀ name ∈ space, IsPlain name)
    {name : Text} (plainName : IsPlain name) : Balanced (qualified space name) := by
  unfold qualified
  split
  · exact plainName.balanced
  · exact plainName.balanced
  · rename_i space _
    exact ((plain space rfl).balanced.append fun _ => rfl).append plainName.balanced

/-! ## Fields -/

private theorem similar_fieldType {left right : Option Text}
    (alike : Option.Rel AlikeTypes left right) :
    Similar (fieldType left) (fieldType right) := by
  have any : Balanced anyType := fun _ => rfl
  cases alike with
  | none => exact any.alike
  | @some left right alike =>
      have head := alike.similar.head?_eq
      cases left with
      | nil =>
          cases right with
          | nil => exact any.alike
          | cons _ _ => cases head
      | cons _ _ =>
          cases right with
          | nil => cases head
          | cons _ _ => exact alike.similar

private theorem similar_descriptions (description other : Text) :
    Similar (docComment (some description) descriptionTag [])
      (docComment (some other) descriptionTag []) := by
  have plain : IsInner descriptionTag := by decide
  have none : ∀ line ∈ ([] : List Text), IsInner line := by simp
  exact (isComment_docComment _ plain none).similar (isComment_docComment _ plain none)

/-- A field without its comment. -/
theorem similar_bareField (name : Text) (isOptional : Bool) {left right : Option Text}
    (alike : Option.Rel AlikeTypes left right) :
    Similar (propertyKey name ++ (if isOptional then "?" else "") ++ ": " ++ fieldType left ++ ";")
      (propertyKey name ++ (if isOptional then "?" else "") ++ ": " ++ fieldType right ++ ";") := by
  have mark : Balanced (Text.ofString (if isOptional then "?" else "")) := by
    cases isOptional <;> exact fun _ => rfl
  have colon : Balanced ": " := fun _ => rfl
  have semicolon : Balanced ";" := fun _ => rfl
  have key := ((balanced_propertyKey name).append mark).append colon
  exact (Alike.reads_append key (similar_fieldType alike)).append_reads semicolon

private theorem similar_fieldText (name : Text) (node : Node) {left right : Option Text}
    (alike : Option.Rel AlikeTypes left right) :
    Similar (fieldText name node left) (fieldText name node.redacted right) := by
  have field := similar_bareField name (isOptional node) alike
  have lineEnd : Balanced "\n" := fun _ => rfl
  unfold fieldText
  rw [Node.isOptional_redacted, Node.description_redacted]
  match node.description with
  | none => exact field
  | some [] => exact field
  | some (c :: rest) =>
    exact ((similar_descriptions (c :: rest) "redacted").append_reads lineEnd).append field

/-! ## Nodes -/

variable {space : Option Text}

private theorem alike_arrayOf {left right : Option Text}
    (alike : Option.Rel AlikeTypes left right) :
    AlikeTypes (arrayOf (left.getD anyType)) (arrayOf (right.getD anyType)) := by
  cases alike with
  | none => exact AlikeTypes.arrayOf (.refl fun _ => rfl)
  | some alike => exact alike.arrayOf

private theorem alike_block {left right : List Text} (similar : List.Forall₂ Similar left right) :
    AlikeTypes ("\x7b\n" ++ indented (lines left) ++ "\n\x7d")
      ("\x7b\n" ++ indented (lines right) ++ "\n\x7d") where
  similar := (similar_indented (similar_lines similar)).enclosed (fun _ => rfl) (fun _ => rfl)
  objects := .inr rfl

mutual

theorem agree_typeOf (plain : ∀ name ∈ space, IsPlain name) : (node : Node) → node.HasPlainNames →
    Agree (Option.Rel AlikeTypes) (typeOf space node) (typeOf space node.redacted)
  | .reference pointer, names => by
      have name := isPlain_of_isIdentifier (names pointer (List.mem_singleton_self pointer))
      exact .success (.some (.refl (balanced_qualified plain name)))
  | .inline facets items properties, names => by
      have basic (kind : Kind) : Agree (Option.Rel AlikeTypes)
          (.ok (some (basicType kind facets.format)) : Except Unwritable (Option Text))
          (.ok (some (basicType kind facets.format))) :=
        .success (.some (.refl (balanced_basicType kind facets.format)))
      rw [Node.redacted]
      unfold typeOf
      dsimp only [Facets.redacted]
      split
      · exact .success .none
      · exact (agree_elementType plain items names.items).bind fun element =>
          .success (.some (alike_arrayOf element))
      · exact agree_objectType plain properties names.properties
      · split
        · rename_i kind members _ _ _ _ _
          have union : Agree AlikeTypes (literalUnion kind members) (literalUnion kind members) :=
            .refl fun text written => .refl (balanced_literalUnion written)
          exact union.map .some
        · exact basic _
      · exact basic _

theorem agree_elementType (plain : ∀ name ∈ space, IsPlain name) : (items : Option Node) →
    (∀ node ∈ items, node.HasPlainNames) →
    Agree (Option.Rel AlikeTypes) (elementType space items)
      (elementType space (redactedItems items))
  | none, _ => .success .none
  | some node, names => agree_typeOf plain node (names node rfl)

theorem agree_objectType (plain : ∀ name ∈ space, IsPlain name) :
    (properties : Option (List (Text × Node))) →
    (∀ fields ∈ properties, ∀ field ∈ fields, field.2.HasPlainNames) →
    Agree (Option.Rel AlikeTypes) (objectType space properties)
      (objectType space (redactedProperties properties))
  | none, _ => .success .none
  | some [], _ => .success (.some (.refl fun _ => rfl))
  | some (field :: rest), names =>
    (agree_fieldTexts plain (field :: rest) (names _ rfl)).bind fun fields =>
      .success (.some (alike_block fields))

theorem agree_fieldTexts (plain : ∀ name ∈ space, IsPlain name) :
    (fields : List (Text × Node)) → (∀ field ∈ fields, field.2.HasPlainNames) →
    Agree (List.Forall₂ Similar) (fieldTexts space fields)
      (fieldTexts space (redactedFields fields))
  | [], _ => .success .nil
  | (name, node) :: rest, names => by
      have ⟨first, others⟩ := List.forall_mem_cons.mp names
      exact (agree_typeOf plain node first).bind fun type =>
        (agree_fieldTexts plain rest others).bind fun texts =>
          .success (.cons (similar_fieldText name node type) texts)

end

end ApiClient.Code
