import ApiClient.Proofs.Code.Alternatives
import ApiClient.Proofs.Code.Templates
import ApiClient.Proofs.Code.Types
import ApiClient.Proofs.Document.Parts
import ApiClient.Proofs.Text.Replacement

/-! Array types as precedence has them. The brackets of an array belong to the whole type in
front of them only if that is no union, or a union in parentheses. Whether parentheses are
needed is seen from the text of a type, and that is enough: a bar that divides alternatives
always has a blank on either side, and what begins with a curly bracket is an object type, in
which all bars are enclosed. -/

namespace ApiClient

namespace Code

/-! ## Reading -/

/-- A type without the parentheses around the whole of it. -/
def unparenthesized : Text → Text
  | [] => []
  | c :: rest =>
    if c = '(' ∧ rest.getLast? = some (.char ')') ∧ IsClosed rest.dropLast then rest.dropLast
    else c :: rest

/-- The type of the elements if a type is read as one of arrays. A union is none, also where
its last alternative is one. -/
def elementOf? (type : Text) : Option Text :=
  match alternatives type with
  | [operand] =>
    if (Text.ofString "[]").isSuffixOf operand then
      some (unparenthesized (operand.take (operand.length - 2)))
    else none
  | _ => none

example : elementOf? "(a | b)[]" = some "a | b" ∧ elementOf? "a | b[]" = none ∧
    elementOf? "(a)[](b)[]" = some "(a)[](b)" := by decide

/-! ## Types as operands -/

/-- A type as it stands in front of the brackets of an array. -/
def operandOf (element : Text) : Text :=
  if Text.occurs " | " element && element.head? != some (.char '\x7b') then "(" ++ element ++ ")"
  else element

private theorem arrayOf_eq_operandOf (element : Text) :
    arrayOf element = operandOf element ++ "[]" := by
  rw [arrayOf, operandOf]
  split
  · rw [List.append_assoc _ (Text.ofString ")")]
    rfl
  · rfl

/-- What all types have in common. A union shows by its bars, unless it looks like an object
type, and only what is added around a type ends with a parenthesis. -/
structure IsTypeText (type : Text) : Prop where
  balanced : Balanced type
  undivided : Scanner.start.IsUndivided type ∨
    Text.occurs " | " type ∧ type.head? ≠ some (.char '\x7b')
  last : type.getLast? ≠ some (.char ')')

namespace IsTypeText

theorem of_isPlain {type : Text} (plain : IsPlain type) (noBar : CodePoint.char '|' ∉ type) :
    IsTypeText type where
  balanced := plain.balanced
  undivided := .inl (Scanner.isUndivided_of_not_mem noBar)
  last ends := plain _ (List.mem_of_getLast? ends) (by decide)

variable {type : Text}

theorem operandOf_cases (isType : IsTypeText type) :
    operandOf type = type ∧ Scanner.start.IsUndivided type ∨
      operandOf type = "(" ++ type ++ ")" := by
  rw [operandOf]
  split
  · exact .inr rfl
  · rename_i shows
    refine .inl ⟨rfl, isType.undivided.resolve_right fun divided => shows ?_⟩
    rw [divided.1, Bool.true_and, bne_iff_ne]
    exact divided.2

theorem isUndivided_operandOf (isType : IsTypeText type) :
    Scanner.start.IsUndivided (operandOf type) := by
  rcases isType.operandOf_cases with ⟨same, undivided⟩ | parenthesized
  · rw [same]
    exact undivided
  · rw [parenthesized]
    exact isUndivided_enclosed isType.balanced (fun _ => rfl) (by decide) (by decide)

private theorem balanced_operandOf (isType : IsTypeText type) : Balanced (operandOf type) := by
  rcases isType.operandOf_cases with ⟨same, -⟩ | parenthesized
  · rw [same]
    exact isType.balanced
  · rw [parenthesized]
    exact isType.balanced.enclosed (fun _ => rfl) (fun _ => rfl)

private theorem unparenthesized_operandOf (isType : IsTypeText type) :
    unparenthesized (operandOf type) = type := by
  rcases isType.operandOf_cases with ⟨same, -⟩ | parenthesized
  · rw [same]
    cases type with
    | nil => rfl
    | cons c rest =>
        rw [unparenthesized, if_neg]
        rintro ⟨-, ends, -⟩
        apply isType.last
        rw [List.getLast?_cons, ends]
        rfl
  · rw [parenthesized, List.append_assoc]
    change unparenthesized (.char '(' :: (type ++ [.char ')'])) = type
    rw [unparenthesized, List.getLast?_concat, List.dropLast_concat]
    exact if_pos ⟨rfl, rfl, isType.balanced.isClosed⟩

/-- Arrays of arrays need no more than their elements. -/
theorem arrayOf (isType : IsTypeText type) : IsTypeText (arrayOf type) := by
  rw [arrayOf_eq_operandOf]
  refine ⟨isType.balanced_operandOf.append fun _ => rfl, .inl ?_, ?_⟩
  · exact isType.balanced_operandOf.isUndivided_append isType.isUndivided_operandOf (by decide)
  · have ends : (Text.ofString "[]").getLast? = some (.char ']') := rfl
    rw [List.getLast?_append, ends, Option.some_or]
    decide

private theorem elementOf?_arrayOf (isType : IsTypeText type) :
    elementOf? (operandOf type ++ "[]") = some type := by
  have single : alternatives (operandOf type ++ "[]") = [operandOf type ++ "[]"] :=
    isType.balanced_operandOf.isUndivided_append isType.isUndivided_operandOf (by decide)
  have suffix : (Text.ofString "[]").isSuffixOf (operandOf type ++ Text.ofString "[]") = true :=
    List.isSuffixOf_iff_suffix.mpr (List.suffix_append _ _)
  have element : (operandOf type ++ Text.ofString "[]").take
      ((operandOf type ++ Text.ofString "[]").length - 2) = operandOf type := by
    rw [List.length_append]
    exact List.take_left
  rw [elementOf?, single]
  dsimp only
  rw [if_pos suffix, element, isType.unparenthesized_operandOf]

end IsTypeText

/-! ## Literals and unions -/

/-- What all literals have in common. -/
structure IsLiteralText (text : Text) : Prop where
  balanced : Balanced text
  undivided : Scanner.start.IsUndivided text
  head : text.head? ≠ some (.char '\x7b')
  last : text.getLast? ≠ some (.char ')')

namespace IsLiteralText

theorem of_isPlain {text : Text} (plain : IsPlain text) (noBar : CodePoint.char '|' ∉ text) :
    IsLiteralText text where
  balanced := plain.balanced
  undivided := Scanner.isUndivided_of_not_mem noBar
  head begins := plain _ (List.mem_of_head? begins) (by decide)
  last ends := plain _ (List.mem_of_getLast? ends) (by decide)

private theorem quoted (text : Text) : IsLiteralText (quoted text) where
  balanced := balanced_quoted text
  undivided := isUndivided_quoted text
  head := by
    change some (CodePoint.char '\'') ≠ _
    decide
  last := by
    have ends : (Text.ofString "'").getLast? = some (.char '\'') := rfl
    rw [ApiClient.quoted, Text.Literal.encode, List.getLast?_append, ends, Option.some_or]
    decide

private theorem ofNumeral {number : List Char} (numeral : IsNumeral number) :
    IsLiteralText (Text.ofCharacters number) := by
  refine of_isPlain numeral.isPlain fun member => ?_
  obtain ⟨c, inNumber, isBar⟩ := List.mem_map.mp member
  cases isBar
  exact Bool.noConfusion (numeral '|' inNumber)

private theorem literal {value : Value} (scalar : value.isScalar) {text : Text}
    (written : literal value = .ok text) : IsLiteralText text := by
  cases value with
  | text value =>
      cases written
      exact .quoted value
  | null =>
      cases written
      exact of_isPlain (by decide) (by decide)
  | bool value =>
      cases written
      cases value <;> exact of_isPlain (by decide) (by decide)
  | int value =>
      obtain ⟨number, numeral, rfl⟩ := numeral_of_integerText (mapError_eq_ok_iff.mp written)
      exact ofNumeral numeral
  | real value =>
      cases written
      exact ofNumeral (isNumeral_real value)
  | _ => exact Bool.noConfusion scalar

private theorem memberLiteral {kind : Kind} {member : Value} (scalar : member.isScalar)
    {text : Text} (written : memberLiteral kind member = .ok text) : IsLiteralText text := by
  unfold ApiClient.memberLiteral at written
  split at written
  · cases written
    exact of_isPlain (by decide) (by decide)
  · unfold textLiteral at written
    split at written
    · cases written
      exact .quoted _
    · cases written
  · exact literal scalar written

end IsLiteralText

private theorem getLast?_union {literals : List Text}
    (each : ∀ literal ∈ literals, IsLiteralText literal) :
    (joined " | " literals).getLast? ≠ some (.char ')') := by
  induction literals with
  | nil => decide
  | cons literal rest induction =>
      obtain ⟨first, others⟩ := List.forall_mem_cons.mp each
      cases rest with
      | nil => exact first.last
      | cons next more =>
          have bar : (Text.ofString " | ").getLast? = some (.char ' ') := rfl
          rw [joined, List.getLast?_append, List.getLast?_append, bar, ne_eq,
            Option.or_eq_some_iff]
          · rintro (ends | ⟨-, blank⟩)
            · exact induction others ends
            · exact absurd blank (by simp)
          · exact List.cons_ne_nil next more

private theorem isTypeText_union {literals : List Text}
    (each : ∀ literal ∈ literals, IsLiteralText literal) :
    IsTypeText (joined " | " literals) := by
  have balanced : Balanced (joined " | " literals) :=
    balanced_joined (fun _ => rfl) fun literal member => (each literal member).balanced
  refine ⟨balanced, ?_, getLast?_union each⟩
  cases literals with
  | nil => exact .inl rfl
  | cons literal rest =>
      have first := each literal List.mem_cons_self
      cases rest with
      | nil => exact .inl first.undivided
      | cons next more =>
          refine .inr ⟨?_, ?_⟩
          · change Text.occurs " | " (literal ++ Text.ofString " | " ++ joined " | " (next :: more))
            rw [List.append_assoc]
            exact Text.occurs_append _ literal _
          · change (literal ++ Text.ofString " | " ++ joined " | " (next :: more)).head? ≠ _
            rw [List.append_assoc, List.head?_append, ne_eq, Option.or_eq_some_iff]
            rintro (begins | ⟨-, blank⟩)
            · exact first.head begins
            · change some (CodePoint.char ' ') = _ at blank
              exact absurd blank (by decide)

/-! ## Types of schemas -/

private theorem isTypeText_basicType (kind : Kind) (format : Option Text) :
    IsTypeText (basicType kind format) := by
  unfold basicType
  split
  · split <;> exact .of_isPlain (by decide) (by decide)
  · exact .of_isPlain (by decide) (by decide)
  · exact .of_isPlain (by decide) (by decide)
  · exact .of_isPlain (by decide) (by decide)
  · exact .of_isPlain (by decide) (by decide)
  · exact ⟨fun _ => rfl, .inl (by decide), by decide⟩
  · exact .of_isPlain (by decide) (by decide)

private theorem isTypeText_qualified {space : Option Text}
    (spaceName : ∀ name ∈ space, isIdentifier name) {name : Text}
    (identifier : isIdentifier name) : IsTypeText (qualified space name) := by
  have plain {name : Text} (identifier : isIdentifier name) :
      IsPlain name ∧ CodePoint.char '|' ∉ name :=
    ⟨isPlain_of_isIdentifier identifier,
      IsTemplate.not_mem_of_isIdentifier identifier rfl (by decide)⟩
  have own := plain identifier
  unfold qualified
  split
  · exact .of_isPlain own.1 own.2
  · exact .of_isPlain own.1 own.2
  · rename_i space _
    have around := plain (spaceName space rfl)
    have point : IsPlain "." ∧ CodePoint.char '|' ∉ Text.ofString "." := by decide
    refine .of_isPlain ((around.1.append point.1).append own.1) ?_
    simp only [List.mem_append, not_or]
    exact ⟨⟨around.2, point.2⟩, own.2⟩

private theorem isTypeText_literalUnion {kind : Kind} {members : List Value}
    (scalars : ∀ member ∈ members, member.isScalar) {text : Text}
    (written : literalUnion kind members = .ok text) : IsTypeText text := by
  unfold literalUnion at written
  split at written
  · cases written
    exact .of_isPlain (by decide) (by decide)
  · obtain ⟨literals, ofMembers, rfl⟩ := exists_of_map_eq_ok written
    have alike := mapM_eq_ok_iff.mp ofMembers
    exact isTypeText_union (forall_mem_right_of_forall₂ alike fun member among _ ofMember =>
      IsLiteralText.memberLiteral (scalars member among) ofMember)

private theorem isTypeText_objectType {space : Option Text}
    (spaceName : ∀ name ∈ space, isIdentifier name) {properties : Option (List (Text × Node))}
    (names : ∀ fields ∈ properties, ∀ field ∈ fields, field.2.HasPlainNames) {type : Text}
    (written : objectType space properties = .ok (some type)) : IsTypeText type := by
  have plain : ∀ name ∈ space, IsPlain name := fun name given =>
    isPlain_of_isIdentifier (spaceName name given)
  match properties with
  | none => cases written
  | some [] =>
      cases written
      exact ⟨fun _ => rfl, .inl (by decide), by decide⟩
  | some (field :: rest) =>
      obtain ⟨fields, ofFields, ⟨⟩⟩ := exists_of_bind_eq_ok written
      have agree := agree_fieldTexts plain (field :: rest) (names _ rfl)
      rw [ofFields] at agree
      generalize fieldTexts space (redactedFields (field :: rest)) = redacted at agree
      cases agree with
      | success similar =>
          have inner := (similar_indented (similar_lines similar)).left_reads
          refine ⟨inner.enclosed (fun _ => rfl) (fun _ => rfl),
            .inl (isUndivided_enclosed inner (fun _ => rfl) (by decide) (by decide)), ?_⟩
          have ends : (Text.ofString "\n\x7d").getLast? = some (.char '\x7d') := rfl
          rw [List.getLast?_append, ends, Option.some_or]
          decide

/-- The type of a schema can be an operand, whatever the schema is. -/
theorem isTypeText_typeOf {space : Option Text} (spaceName : ∀ name ∈ space, isIdentifier name)
    {node : Node} (json : node.HasJsonValues) (names : node.HasPlainNames)
    (scalars : node.HasScalarMembers) {type : Text}
    (written : typeOf space node = .ok (some type)) :
    IsTypeText type := by
  induction json generalizing type with
  | reference pointer =>
      rw [typeOf] at written
      cases written
      exact isTypeText_qualified spaceName (names pointer (List.mem_singleton_self pointer))
  | @inline facets items properties _ _ _ items_induction _ =>
      rw [typeOf] at written
      split at written
      · cases written
      · obtain ⟨element, ofItems, ⟨⟩⟩ := exists_of_bind_eq_ok written
        apply IsTypeText.arrayOf
        cases element with
        | none => exact .of_isPlain (by decide) (by decide)
        | some element =>
            cases items with
            | none => cases ofItems
            | some item =>
                rw [elementType] at ofItems
                exact items_induction item rfl (names.items item rfl)
                  (Node.IsPartOf.hasScalarMembers (.item .self) scalars) ofItems
      · exact isTypeText_objectType spaceName names.properties written
      · rename_i members _ _ _ given
        split at written
        · obtain ⟨text, ofMembers, ⟨⟩⟩ := exists_of_map_eq_ok written
          exact isTypeText_literalUnion (scalars facets items properties .self members given)
            ofMembers
        · cases written
          exact isTypeText_basicType _ _
      · cases written
        exact isTypeText_basicType _ _

/-- A schema for arrays, anywhere in a schema, has the type of arrays of its element type, and
is read as such: no bar divides what stands in front of the brackets. -/
theorem typeOf_array {space : Option Text} (spaceName : ∀ name ∈ space, isIdentifier name)
    {tree : Node} (json : tree.HasJsonValues) (names : tree.HasPlainNames)
    (scalars : tree.HasScalarMembers) {facets : Facets} {items : Option Node}
    {properties : Option (List (Text × Node))}
    (within : Node.IsPartOf (.inline facets items properties) tree)
    (array : facets.kind = some .array) :
    ∃ element operand, elementType space items = .ok element ∧
      (operand = element.getD anyType ∨ operand = "(" ++ element.getD anyType ++ ")") ∧
      alternatives operand = [operand] ∧
      typeOf space (.inline facets items properties) = .ok (some (operand ++ "[]")) ∧
      elementOf? (operand ++ "[]") = some (element.getD anyType) := by
  have partJson := within.hasJsonValues json
  have partNames := within.hasPlainNames names
  have partScalars := within.hasScalarMembers scalars
  obtain ⟨element, ofItems, isType⟩ : ∃ element, elementType space items = .ok element ∧
      IsTypeText (element.getD anyType) := by
    cases items with
    | none => exact ⟨none, by rw [elementType], .of_isPlain (by decide) (by decide)⟩
    | some item =>
        have inner : item.IsPartOf (.inline facets (some item) properties) := .item .self
        obtain ⟨element, ofItem⟩ := (inner.hasJsonValues partJson).exists_typeOf space
        refine ⟨element, by rw [elementType, ofItem], ?_⟩
        cases element with
        | none => exact .of_isPlain (by decide) (by decide)
        | some element =>
            exact isTypeText_typeOf spaceName (inner.hasJsonValues partJson)
              (inner.hasPlainNames partNames) (inner.hasScalarMembers partScalars) ofItem
  refine ⟨element, operandOf (element.getD anyType), ofItems,
    isType.operandOf_cases.imp_left And.left, isType.isUndivided_operandOf, ?_,
    isType.elementOf?_arrayOf⟩
  rw [typeOf, array, ofItems, ← arrayOf_eq_operandOf]
  rfl

/-- Texts or null, where one of the texts looks like a union itself. -/
def barredTexts : Node :=
  .inline { kind := some .string, members := some [.text "a | b", .null] } none none

def textArrays : Node :=
  .inline { kind := some .array } (some barredTexts) none

def setsOfTexts : Node :=
  .inline { kind := some .array } (some textArrays) none

/-- An object with arrays of arrays of a union. -/
def nestedUnions : Node :=
  .inline { kind := some .object } none (some [("sets", setsOfTexts), ("all", .reference "#/All")])

theorem typeOf_array_nestedUnions :
    nestedUnions.HasJsonValues ∧ nestedUnions.HasPlainNames ∧ nestedUnions.HasScalarMembers ∧
      setsOfTexts.IsPartOf nestedUnions ∧
      typeOf (some "Models") setsOfTexts = .ok (some "(('a | b' | null)[])[]") ∧
      elementOf? "(('a | b' | null)[])[]" = some "('a | b' | null)[]" := by
  have json : nestedUnions.HasJsonValues := by
    have ofTexts : barredTexts.HasJsonValues := .inline (by simp) nofun nofun
    have ofArray : textArrays.HasJsonValues := .inline nofun (by simpa using ofTexts) nofun
    have ofSets : setsOfTexts.HasJsonValues := .inline nofun (by simpa using ofArray) nofun
    refine .inline nofun nofun ?_
    simpa [or_imp, forall_and] using ⟨ofSets, .reference _⟩
  have names : nestedUnions.HasPlainNames := List.forall_mem_singleton.mpr (by decide)
  have scalars : nestedUnions.HasScalarMembers := by
    have ofTexts : barredTexts.HasScalarMembers := .inline (by simp [Value.isScalar]) nofun nofun
    have ofArray : textArrays.HasScalarMembers := .inline nofun (by simpa using ofTexts) nofun
    have ofSets : setsOfTexts.HasScalarMembers := .inline nofun (by simpa using ofArray) nofun
    refine .inline nofun nofun ?_
    simpa [or_imp, forall_and] using ⟨ofSets, .reference _⟩
  have within : setsOfTexts.IsPartOf nestedUnions := .property List.mem_cons_self .self
  have spaceName : ∀ name ∈ some (Text.ofString "Models"), isIdentifier name := by
    rintro _ ⟨⟩
    decide
  obtain ⟨element, operand, ofItems, -, -, written, read⟩ :=
    typeOf_array spaceName json names scalars within rfl
  refine ⟨json, names, scalars, within, rfl, ?_⟩
  obtain rfl : element = some "('a | b' | null)[]" := (Except.ok.inj ofItems).symm
  have same : Text.ofString "(('a | b' | null)[])[]" = operand ++ Text.ofString "[]" :=
    Option.some.inj (Except.ok.inj written)
  exact (congrArg elementOf? same).trans read

end Code

end ApiClient
