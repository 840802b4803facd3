import ApiClient.Source.TypeExpression

/-! Types within a namespace. The type that a schema has within a namespace is the type that it has
outside of any when the namespace is put before every name that the schema refers to. -/

namespace ApiClient

/-! ## Qualified schemas -/

mutual

/-- The same schema, except that its references name within a namespace what they name by
themselves. -/
inductive Node.Qualified (space : Text) : Node → Node → Prop where
  | reference {pointer other : Text}
      (named : componentName other = space ++ "." ++ componentName pointer) :
      Node.Qualified space (.reference pointer) (.reference other)
  | inline (facets : Facets) {items otherItems : Option Node}
      {properties otherProperties : Option (List (Text × Node))}
      (ofItems : QualifiedItems space items otherItems)
      (ofProperties : QualifiedProperties space properties otherProperties) :
      Node.Qualified space (.inline facets items properties)
        (.inline facets otherItems otherProperties)

inductive QualifiedItems (space : Text) : Option Node → Option Node → Prop where
  | none : QualifiedItems space none none
  | some {node other : Node} (ofNode : Node.Qualified space node other) :
      QualifiedItems space (some node) (some other)

inductive QualifiedProperties (space : Text) :
    Option (List (Text × Node)) → Option (List (Text × Node)) → Prop where
  | none : QualifiedProperties space none none
  | some {fields others : List (Text × Node)} (ofFields : QualifiedFields space fields others) :
      QualifiedProperties space (some fields) (some others)

inductive QualifiedFields (space : Text) : List (Text × Node) → List (Text × Node) → Prop where
  | nil : QualifiedFields space [] []
  | cons (name : Text) {node other : Node} {fields others : List (Text × Node)}
      (ofNode : Node.Qualified space node other)
      (ofFields : QualifiedFields space fields others) :
      QualifiedFields space ((name, node) :: fields) ((name, other) :: others)

end

section

variable {space : Text}

/-! A name within a namespace is a pointer to itself, as long as it holds no slash. -/

private theorem componentName_of_not_mem {name : Text} (plain : CodePoint.char '/' ∉ name) :
    componentName name = name :=
  Text.afterLast_of_not_mem plain

private theorem not_mem_componentName (pointer : Text) :
    CodePoint.char '/' ∉ componentName pointer := by
  intro member
  have apart := Text.not_separates_of_mem_split (List.getLast_mem _) member
  simp at apart

mutual

/-- Every schema can be qualified, because no name holds a slash. -/
theorem Node.exists_qualified (plain : CodePoint.char '/' ∉ space) :
    (node : Node) → ∃ other, Node.Qualified space node other
  | .reference pointer => by
      refine ⟨.reference (space ++ "." ++ componentName pointer), .reference ?_⟩
      apply componentName_of_not_mem
      have dot : CodePoint.char '/' ∉ Text.ofString "." := by decide
      simp [plain, dot, not_mem_componentName]
  | .inline facets items properties => by
      have ⟨others, ofItems⟩ := exists_qualifiedItems plain items
      have ⟨otherProperties, ofProperties⟩ := exists_qualifiedProperties plain properties
      exact ⟨_, .inline facets ofItems ofProperties⟩

theorem exists_qualifiedItems (plain : CodePoint.char '/' ∉ space) :
    (items : Option Node) → ∃ others, QualifiedItems space items others
  | none => ⟨none, .none⟩
  | some node => by
      have ⟨other, ofNode⟩ := Node.exists_qualified plain node
      exact ⟨some other, .some ofNode⟩

theorem exists_qualifiedProperties (plain : CodePoint.char '/' ∉ space) :
    (properties : Option (List (Text × Node))) →
      ∃ others, QualifiedProperties space properties others
  | none => ⟨none, .none⟩
  | some fields => by
      have ⟨others, ofFields⟩ := exists_qualifiedFields plain fields
      exact ⟨some others, .some ofFields⟩

theorem exists_qualifiedFields (plain : CodePoint.char '/' ∉ space) :
    (fields : List (Text × Node)) → ∃ others, QualifiedFields space fields others
  | [] => ⟨[], .nil⟩
  | (name, node) :: fields => by
      have ⟨other, ofNode⟩ := Node.exists_qualified plain node
      have ⟨others, ofFields⟩ := exists_qualifiedFields plain fields
      exact ⟨(name, other) :: others, .cons name ofNode ofFields⟩

end

/-! ## Their types

A field is written from the type of its schema and from what qualification keeps: whether the schema
lets it be left out, and its description. -/

private theorem qualified_of_ne_nil (nonempty : space ≠ []) (name : Text) :
    qualified (some space) name = space ++ "." ++ name := by
  cases space with
  | nil => exact absurd rfl nonempty
  | cons c rest => rfl

private theorem Node.Qualified.fieldText_eq {node other : Node}
    (ofNode : Node.Qualified space node other) (name : Text) (type : Option Text) :
    fieldText name node type = fieldText name other type := by
  cases ofNode <;> rfl

mutual

theorem Node.Qualified.typeOf_eq (nonempty : space ≠ []) {node other : Node} :
    Node.Qualified space node other → typeOf (some space) node = typeOf none other
  | .reference named => by
      rw [typeOf, typeOf, qualified_of_ne_nil nonempty, ← named]
      rfl
  | .inline facets ofItems ofProperties => by
      rw [typeOf, typeOf, ofItems.elementType_eq nonempty, ofProperties.objectType_eq nonempty]

theorem QualifiedItems.elementType_eq (nonempty : space ≠ []) {items others : Option Node} :
    QualifiedItems space items others → elementType (some space) items = elementType none others
  | .none => by rw [elementType, elementType]
  | .some ofNode => by rw [elementType, elementType, ofNode.typeOf_eq nonempty]

theorem QualifiedProperties.objectType_eq (nonempty : space ≠ [])
    {properties others : Option (List (Text × Node))} :
    QualifiedProperties space properties others →
      objectType (some space) properties = objectType none others
  | .none => by rw [objectType, objectType]
  | .some .nil => by rw [objectType, objectType]
  | .some (.cons name ofNode ofFields) => by
      rw [objectType, objectType,
        (QualifiedFields.cons name ofNode ofFields).fieldTexts_eq nonempty]
      all_goals exact nofun

private theorem QualifiedFields.fieldTexts_eq (nonempty : space ≠ [])
    {fields others : List (Text × Node)} :
    QualifiedFields space fields others → fieldTexts (some space) fields = fieldTexts none others
  | .nil => by rw [fieldTexts, fieldTexts]
  | .cons name ofNode ofFields => by
      rw [fieldTexts, fieldTexts, ofNode.typeOf_eq nonempty, ofFields.fieldTexts_eq nonempty]
      simp only [ofNode.fieldText_eq]

end

end

/-- To write types within a namespace is to write those of the qualified schemas outside of any:
they have the same types, or the same lack of one, and the same fields. -/
theorem typeOf_qualified {space : Text} (nonempty : space ≠ [])
    (plain : CodePoint.char '/' ∉ space) :
    (∀ node, (∃ other, Node.Qualified space node other) ∧
      ∀ other, Node.Qualified space node other →
        typeOf (some space) node = typeOf none other) ∧
    ∀ fields, (∃ others, QualifiedFields space fields others) ∧
      ∀ others, QualifiedFields space fields others →
        renderFields (some space) fields = renderFields none others := by
  constructor
  · intro node
    exact ⟨node.exists_qualified plain, fun other ofNode => ofNode.typeOf_eq nonempty⟩
  · intro fields
    refine ⟨exists_qualifiedFields plain fields, fun others ofFields => ?_⟩
    rw [renderFields, renderFields, ofFields.fieldTexts_eq nonempty]

/-- Records with a list of pets, beside a list of words that looks like a union of types. -/
def kennelFields (pet : Text) : List (Text × Node) :=
  [("pets", .inline { kind := some .array } (some (.reference pet)) none),
    ("moods", .inline { kind := some .array }
      (some (.inline { kind := some .string, members := some [.text "a", .null] } none none)) none)]

def kennel (pet : Text) : Node :=
  .inline { kind := some .array } (some (.inline { kind := some .object, description := some "One" }
    none (some (kennelFields pet)))) none

theorem typeOf_qualified_kennel :
    QualifiedFields "Models" (kennelFields "#/components/schemas/Pet") (kennelFields "Models.Pet") ∧
      typeOf (some "Models") (kennel "#/components/schemas/Pet") =
        typeOf none (kennel "Models.Pet") ∧
      typeOf none (kennel "Models.Pet") = .ok (some
        "\x7b\n  pets?: Models.Pet[];\n  moods?: ('a' | null)[];\n\x7d[]") ∧
      renderFields (some "Models") (kennelFields "#/components/schemas/Pet") =
        renderFields none (kennelFields "Models.Pet") := by
  have ofFields : QualifiedFields "Models" (kennelFields "#/components/schemas/Pet")
      (kennelFields "Models.Pet") := by
    refine .cons _ (.inline _ (.some (.reference ?_)) .none) (.cons _ (.inline _ ?_ .none) .nil)
    · decide
    · exact .some (.inline _ .none .none)
  have ofKennel : Node.Qualified "Models" (kennel "#/components/schemas/Pet")
      (kennel "Models.Pet") :=
    .inline _ (.some (.inline _ .none (.some ofFields))) .none
  have nonempty : ("Models" : Text) ≠ [] := by decide
  have ⟨types, fields⟩ := typeOf_qualified nonempty (by decide)
  exact ⟨ofFields, (types _).2 _ ofKennel, rfl, (fields _).2 _ ofFields⟩

end ApiClient
