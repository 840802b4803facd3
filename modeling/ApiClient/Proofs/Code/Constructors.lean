import ApiClient.Proofs.Agreement
import ApiClient.Proofs.Code.Bindings
import ApiClient.Proofs.Code.Literals
import ApiClient.Source.Declaration
import Mathlib.Data.List.Nodup

/-! Constructors as they run, read back from the class. A constructor takes its argument apart into
variables and stores each of them in a field, exactly if the variables are apart. -/

namespace ApiClient.Code

/-! ## Values to fall back on -/

/-- The default values that can stand in code. -/
inductive IsFallback : Text → Prop where
  | quoted (value : Text) : IsFallback (quoted value)
  | numeral {number : List Char} (numeral : IsNumeral number) :
      IsFallback (Text.ofCharacters number)

private theorem isFallback_of_defaultLiteral {node : Node} {value : Text}
    (written : defaultLiteral node = .ok (some value)) : IsFallback value := by
  cases node with
  | reference _ => cases written
  | inline facets _ _ =>
      rw [defaultLiteral] at written
      split at written
      · cases written
        exact .quoted _
      · rename_i number _
        obtain ⟨text, literal, ⟨⟩⟩ := exists_of_map_eq_ok written
        obtain ⟨digits, numeral, rfl⟩ := numeral_of_integerText (mapError_eq_ok_iff.mp literal)
        exact .numeral numeral
      · rename_i number _
        cases written
        exact .numeral (isNumeral_real number)
      · rename_i answer _
        cases written
        have words : IsNumeral "true".toList ∧ IsNumeral "false".toList := by decide
        cases answer
        · exact .numeral words.2
        · exact .numeral words.1
      · cases written

private theorem not_isBreak_of_isNumeric {c : Char} (numeric : isNumeric c) :
    Text.isBreak c = false := by
  simp only [isNumeric, Bool.or_eq_true, beq_iff_eq] at numeric
  rcases numeric with ((alphanumeric | rfl) | rfl) | rfl
  · have part : (CodePoint.char c).isIn isIdentifierPart := by
      simp only [CodePoint.isIn, isAlphanumeric, isIdentifierPart, isIdentifierStart,
        Bool.or_eq_true] at *
      exact alphanumeric.imp (fun letter => .inl (.inl letter)) id
    exact Enumeration.Reader.not_isBreak_of_isIdentifierPart part
  · rfl
  · rfl
  · rfl

/-- What follows the variable in a part of a pattern. -/
def bindingEnd : Option Text → Text
  | none => ","
  | some value => " = " ++ value ++ ","

private theorem skipValue?_numeral {number : List Char} (numeral : IsNumeral number)
    (tail : Text) :
    skipValue? (skipSpace (Text.ofCharacters number ++ ("," ++ tail))) = some ("," ++ tail) := by
  have past : (Text.ofCharacters number ++ ("," ++ tail)).dropWhile (·.isIn isNumeric) =
      "," ++ tail :=
    List.dropWhile_append_of_pos (List.forall_mem_map.mpr numeral)
  cases number with
  | nil => rfl
  | cons c others =>
      have ne {sign : Char} (noNumber : isNumeric sign = false) : CodePoint.char c ≠ sign := by
        rintro ⟨⟩
        exact Bool.noConfusion ((numeral c List.mem_cons_self).symm.trans noNumber)
      have noSpace : skipSpace (Text.ofCharacters (c :: others) ++ ("," ++ tail)) =
          Text.ofCharacters (c :: others) ++ ("," ++ tail) := by
        have notSpace : ¬(CodePoint.char c = ' ' ∨ CodePoint.char c = '\n') :=
          fun space => space.elim (ne rfl) (ne rfl)
        exact List.dropWhile_cons_of_neg (by simpa using notSpace)
      rw [noSpace, skipValue?.eq_def]
      split
      · rename_i quote
        exact absurd (List.cons.inj quote).1 (ne rfl)
      · rw [past]

private theorem skipValue?_hang {value : Text} (fallback : IsFallback value) (level : Nat)
    (tail : Text) :
    skipValue? (skipSpace (.char ' ' :: (Text.hang level (value ++ ",") ++ tail))) =
      some ("," ++ tail) := by
  have comma : Text.hang level "," = "," := rfl
  cases fallback with
  | quoted value =>
      rw [Text.hang_quoted, comma, List.append_assoc]
      change (Quotation.finish? (.inside [])
        (Text.Literal.body (Text.Literal.indented level value) ++ "'" ++ ("," ++ tail))).map _ = _
      rw [Quotation.finish?_body]
      rfl
  | @numeral number numeral =>
      have sameLine : ∀ c ∈ Text.ofCharacters number, c.isIn Text.isBreak = false :=
        List.forall_mem_map.mpr fun c member => not_isBreak_of_isNumeric (numeral c member)
      rw [Text.hang_append_of_not_isBreak level _ _ sameLine, comma, List.append_assoc,
        skipSpace_space]
      exact skipValue?_numeral numeral tail

private theorem skipFallback?_hang {default : Option Text}
    (fallback : ∀ value ∈ default, IsFallback value) (level : Nat) (tail : Text) :
    skipFallback? (skipSpace (Text.hang level (bindingEnd default) ++ tail)) = some tail := by
  cases default with
  | none => exact Text.remainder?_append "," tail
  | some value =>
      have sameLine : Text.hang level (" = " ++ (value ++ ",")) =
          " = " ++ Text.hang level (value ++ ",") :=
        Text.hang_append_of_not_isBreak level " = " _ (by decide)
      rw [bindingEnd, List.append_assoc, sameLine]
      change (skipValue? (skipSpace
        (.char ' ' :: (Text.hang level (value ++ ",") ++ tail)))).bind _ = _
      rw [skipValue?_hang (fallback value rfl)]
      exact Text.remainder?_append "," tail

/-! ## Parts of a constructor -/

/-- A key as it stands in a constructor, where the lines are two levels deep. -/
def constructorKey (name : Text) : Text :=
  Text.Literal.indented 2 (keyName name)

private theorem constructorKey_of_isIdentifier {name : Text} (identifier : isIdentifier name) :
    constructorKey name = keyName name :=
  indented_of_isWholeIdentifier (isWholeIdentifier_keyName identifier) 1

/-- What a part of a constructor is read as. A reserved word is no variable. -/
def bound? (name : Text) : Option (Text × Text) :=
  if isReserved (variableName name) then none else some (constructorKey name, variableName name)

private theorem bindingText_eq (name : Text) (default : Option Text) :
    bindingText name default =
      if bindingName name = name then name ++ bindingEnd default
      else propertyKey name ++ (": " ++ (bindingName name ++ bindingEnd default)) := by
  have follows (pattern : Text) : (match default with
      | none => pattern ++ ","
      | some value => pattern ++ " = " ++ value ++ ",") = pattern ++ bindingEnd default := by
    cases default <;> simp [bindingEnd]
  refine (follows _).trans ?_
  split
  · rename_i same
    rw [same]
  · rw [List.append_assoc, List.append_assoc]

private theorem endsIdentifier_bindingEnd (default : Option Text) (level : Nat) (tail : Text) :
    EndsIdentifier (Text.hang level (bindingEnd default) ++ tail) := by
  cases default <;> exact .cons rfl _

/-- A variable alone is followed by no colon. -/
theorem readBound?_bindingEnd (text : Text) (default : Option Text) (level : Nat) (tail : Text) :
    readBound? text (skipSpace (Text.hang level (bindingEnd default) ++ tail)) =
      readVariable? text := by
  cases default <;> rfl

section

variable (name : Text) {default : Option Text} (fallback : ∀ value ∈ default, IsFallback value)
  (tail : Text)

include fallback

/-- What follows a variable is skipped, if there is a variable. -/
theorem bound?_bindingEnd :
    (do
      let (other, rest) ← readVariable?
        (Text.hang 2 (bindingName name ++ bindingEnd default) ++ tail)
      let rest ← skipFallback? rest
      return ((constructorKey name, other), skipSpace rest)) =
      (bound? name).map (·, skipSpace tail) := by
  rw [readVariable?_hang 2 name (endsIdentifier_bindingEnd default 2 tail), bound?]
  split
  · rfl
  · change (do
      let rest ← skipFallback? (skipSpace (Text.hang 2 (bindingEnd default) ++ tail))
      return ((constructorKey name, variableName name), skipSpace rest)) = _
    rw [skipFallback?_hang fallback]
    rfl

private theorem readBinding?_alone (same : bindingName name = name) :
    readBinding? (Text.hang 2 (name ++ bindingEnd default) ++ tail) =
      (bound? name).map (·, skipSpace tail) := by
  have identifier : isIdentifier name := same ▸ isIdentifier_bindingName name
  have read := bound?_bindingEnd name fallback tail
  rw [same] at read
  rw [readBinding?, readKey?_hang_of_isIdentifier identifier,
    readIdentifier?_hang identifier 2 (endsIdentifier_bindingEnd default 2 tail),
    ← constructorKey_of_isIdentifier identifier]
  change (do
    let (other, rest) ← readBound? _ (skipSpace (Text.hang 2 (bindingEnd default) ++ tail))
    let rest ← skipFallback? rest
    return ((constructorKey name, other), skipSpace rest)) = _
  rw [readBound?_bindingEnd]
  exact read

private theorem readBinding?_renamed :
    readBinding? (Text.hang 2
        (propertyKey name ++ (": " ++ (bindingName name ++ bindingEnd default))) ++ tail) =
      (bound? name).map (·, skipSpace tail) := by
  have colon : Text.hang 2 (": " ++ (bindingName name ++ bindingEnd default)) =
      ": " ++ Text.hang 2 (bindingName name ++ bindingEnd default) :=
    Text.hang_append_of_not_isBreak 2 ": " _ (by decide)
  have ends : EndsIdentifier
      (Text.hang 2 (": " ++ (bindingName name ++ bindingEnd default)) ++ tail) := by
    rw [colon]
    exact .cons rfl _
  rw [readBinding?, readKey?_hang_propertyKey name 1 ends, colon]
  change (do
    let (other, rest) ← readVariable? (skipSpace
      (Text.hang 2 (bindingName name ++ bindingEnd default) ++ tail))
    let rest ← skipFallback? rest
    return ((constructorKey name, other), skipSpace rest)) = _
  rw [skipSpace_hang]
  exact bound?_bindingEnd name fallback tail

/-- A part of a pattern is read unless its variable is a reserved word. -/
theorem reads_bindingText : bindingReader.Reads 2 (bound? name) (bindingText name default) := by
  rw [bindingText_eq]
  split
  · rename_i same
    have identifier : isIdentifier name := same ▸ isIdentifier_bindingName name
    exact ⟨.append (.ofIdentifier identifier) _,
      fun tail => readBinding?_alone name fallback tail same⟩
  · exact ⟨.append (.propertyKey name) _, readBinding?_renamed name fallback⟩

end

private theorem readField?_hang (name : Text) {rest tail : Text}
    (ends : EndsIdentifier (Text.hang 2 rest ++ tail)) :
    readField? (Text.hang 2 (memberAccess "this" name ++ rest) ++ tail) =
      some (constructorKey name, skipSpace (Text.hang 2 rest ++ tail)) := by
  rw [memberAccess]
  split
  · rename_i identifier
    have sameLine : Text.hang 2 ("this." ++ (name ++ rest)) =
        "this." ++ Text.hang 2 (name ++ rest) :=
      Text.hang_append_of_not_isBreak 2 "this." _ (by decide)
    change readField? (Text.hang 2 ("this." ++ name ++ rest) ++ tail) = _
    rw [List.append_assoc, sameLine]
    change readIdentifier? (Text.hang 2 (name ++ rest) ++ tail) = _
    rw [readIdentifier?_hang identifier 2 ends, constructorKey_of_isIdentifier identifier]
  · rename_i notIdentifier
    have joined : ("this" : Text) ++ "[" ++ quoted name ++ "]" ++ rest =
        "this" ++ ("[" ++ quoted name ++ "]" ++ rest) := by
      simp only [List.append_assoc]
    have sameLine : Text.hang 2 ("this" ++ ("[" ++ quoted name ++ "]" ++ rest)) =
        "this" ++ Text.hang 2 ("[" ++ quoted name ++ "]" ++ rest) :=
      Text.hang_append_of_not_isBreak 2 "this" _ (by decide)
    rw [joined, sameLine, constructorKey, keyName, if_neg notIdentifier]
    change (readIndex? (Text.hang 2 ("[" ++ quoted name ++ "]" ++ rest) ++ tail)).map _ = _
    rw [readIndex?_hang]
    rfl

/-- An assignment is read unless its variable is a reserved word. -/
theorem reads_assignmentText (name : Text) :
    assignmentReader.Reads 2 (bound? name) (assignmentText name) := by
  refine ⟨?_, fun tail => ?_⟩
  · refine .append (.append (.append ?_ _) _) _
    rw [memberAccess]
    split
    · exact ⟨'t', _, rfl, rfl, by decide, by decide⟩
    · exact ⟨'t', _, rfl, rfl, by decide, by decide⟩
  · have sameLine : Text.hang 2 (" = " ++ (bindingName name ++ ";")) =
        " = " ++ Text.hang 2 (bindingName name ++ ";") :=
      Text.hang_append_of_not_isBreak 2 " = " _ (by decide)
    have equals : EndsIdentifier (Text.hang 2 (" = " ++ (bindingName name ++ ";")) ++ tail) := by
      rw [sameLine]
      exact .cons rfl _
    have semicolon : EndsIdentifier (Text.hang 2 ";" ++ tail) := .cons rfl _
    change readAssignment? _ = _
    rw [assignmentText, List.append_assoc, List.append_assoc, readAssignment?,
      readField?_hang name equals, sameLine]
    change (do
      let (other, rest) ← readVariable? (skipSpace
        (Text.hang 2 (bindingName name ++ ";") ++ tail))
      let rest ← Text.remainder? ";" rest
      return ((constructorKey name, other), skipSpace rest)) = _
    rw [skipSpace_hang, readVariable?_hang 2 name semicolon, bound?]
    split
    · rfl
    · change (do
        let rest ← Text.remainder? ";" ((";" : Text) ++ tail)
        return ((constructorKey name, variableName name), skipSpace rest)) = _
      rw [Text.remainder?_append]
      rfl

/-! ## Constructors -/

/-- The names of the properties with which a constructor is code. -/
structure Separate (names : List Text) : Prop where
  apart : names.Pairwise (¬ SharesVariable · ·)
  allowed : ∀ name ∈ names, ¬ HidesReserved name

/-- What an assignment stores, where a pattern binds keys to variables. -/
def stored? {α : Type} (bindings : List (Text × Text)) (passed : Text → α)
    (assignment : Text × Text) : Option (Text × α) := do
  let (key, _) ← bindings.find? (·.2 = assignment.2)
  return (assignment.1, passed key)

/-- The fields that a constructor stores, with the values that are passed under keys. -/
def constructed? {α : Type} (pattern body : Text) (passed : Text → α) :
    Option (List (Text × α)) := do
  let bindings ← readPattern? pattern
  (← readBody? body).mapM (stored? bindings passed)

instance (name other : Text) : Decidable (SharesVariable name other) :=
  decidable_of_iff _ sharesVariable_iff.symm

instance (name : Text) : Decidable (HidesReserved name) :=
  decidable_of_iff _ hidesReserved_iff.symm

instance (names : List Text) : Decidable (Separate names) :=
  decidable_of_iff
    (names.Pairwise (¬ SharesVariable · ·) ∧ ∀ name ∈ names, ¬ HidesReserved name)
    ⟨fun ⟨apart, allowed⟩ => ⟨apart, allowed⟩, fun separate => ⟨separate.apart, separate.allowed⟩⟩

section

variable {names : List Text}

private theorem nodup_variableName_iff :
    (names.map variableName).Nodup ↔ names.Pairwise (¬ SharesVariable · ·) := by
  rw [List.Nodup, List.pairwise_map]
  simp only [sharesVariable_iff, ne_eq]

private theorem any_isReserved_eq_false_iff :
    (names.any fun name => isReserved (variableName name)) = false ↔
      ∀ name ∈ names, ¬ HidesReserved name := by
  simp [hidesReserved_iff]

/-- The parts of a constructor are read unless a name hides a reserved word. -/
theorem mapM_bound?_eq (names : List Text) :
    names.mapM bound? =
      if names.any fun name => isReserved (variableName name) then none
      else some (names.map fun name => (constructorKey name, variableName name)) := by
  induction names with
  | nil => rfl
  | cons name rest induction =>
      rw [List.mapM_cons, induction, bound?, List.any_cons]
      cases isReserved (variableName name)
      · cases rest.any fun name => isReserved (variableName name) <;> rfl
      · rfl

private theorem readPattern?_lines {patterns : List Text}
    (written : List.Forall₂
      (fun name text => ∃ default : Option Text,
        (∀ value ∈ default, IsFallback value) ∧ text = bindingText name default)
      names patterns) :
    readPattern? ("\n" ++ Text.indent 2 (lines patterns) ++ "\n  \x7d") =
      (names.mapM bound?).bind fun bound =>
        if (bound.map Prod.snd).Nodup then some bound else none := by
  have each :
      List.Forall₂ (fun name text => bindingReader.Reads 2 (bound? name) text) names patterns := by
    apply written.imp
    rintro name text ⟨default, fallback, rfl⟩
    exact reads_bindingText name fallback
  have read : bindingReader.all? (skipSpace (Text.indent 2 (lines patterns) ++ "\n  \x7d")) =
      (names.mapM bound?).map (·, []) :=
    ItemReader.all?_lines each rfl rfl
  rw [readPattern?, List.append_assoc]
  change (bindingReader.all? (skipSpace (Text.indent 2 (lines patterns) ++ "\n  \x7d"))).bind _ = _
  rw [read]
  cases names.mapM bound? with
  | none => rfl
  | some bound => simp

private theorem readBody?_lines (names : List Text) :
    readBody? ("\n" ++ Text.indent 2 (lines (names.map assignmentText)) ++ "\n  \x7d\n\x7d") =
      names.mapM bound? := by
  have each : List.Forall₂ (fun name text => assignmentReader.Reads 2 (bound? name) text) names
      (names.map assignmentText) :=
    List.forall₂_map_right_iff.mpr (List.forall₂_same.mpr fun name _ => reads_assignmentText name)
  have read : assignmentReader.all? (skipSpace
      (Text.indent 2 (lines (names.map assignmentText)) ++ "\n  \x7d\n\x7d")) =
      (names.mapM bound?).map (·, ("\n\x7d" : Text)) :=
    ItemReader.all?_lines each rfl rfl
  rw [readBody?, List.append_assoc]
  change (assignmentReader.all? (skipSpace
    (Text.indent 2 (lines (names.map assignmentText)) ++ "\n  \x7d\n\x7d"))).bind _ = _
  rw [read]
  cases names.mapM bound? <;> rfl

private theorem stored?_of_nodup {α : Type} (apart : (names.map variableName).Nodup)
    (passed : Text → α) {name : Text} (among : name ∈ names) :
    stored? (names.map fun name => (constructorKey name, variableName name)) passed
      (constructorKey name, variableName name) =
        some (constructorKey name, passed (constructorKey name)) := by
  rw [stored?, List.find?_map]
  cases found : names.find? ((fun binding : Text × Text => binding.2 = variableName name) ∘
      fun name => (constructorKey name, variableName name)) with
  | none => simpa using List.find?_eq_none.mp found name among
  | some other =>
      have same : variableName other = variableName name := by simpa using List.find?_some found
      rw [List.inj_on_of_nodup_map apart (List.mem_of_find?_eq_some found) among same]
      rfl

private theorem mapM_eq_some_of_forall {α β : Type} {image : α → Option β} {result : α → β}
    {items : List α} (each : ∀ item ∈ items, image item = some (result item)) :
    items.mapM image = some (items.map result) := by
  induction items with
  | nil => rfl
  | cons item rest induction =>
      obtain ⟨first, others⟩ := List.forall_mem_cons.mp each
      rw [List.mapM_cons, first, induction others]
      rfl

/-- A constructor with a part of its pattern and an assignment for each name. -/
theorem constructed?_eq {α : Type} {patterns : List Text}
    (written : List.Forall₂
      (fun name text => ∃ default : Option Text,
        (∀ value ∈ default, IsFallback value) ∧ text = bindingText name default)
      names patterns) (passed : Text → α) {pattern body : Text}
    (isPattern : pattern = "\n" ++ Text.indent 2 (lines patterns) ++ "\n  \x7d")
    (isBody : body = "\n" ++ Text.indent 2 (lines (names.map assignmentText)) ++ "\n  \x7d\n\x7d") :
    (Separate names → constructed? pattern body passed =
      some (names.map fun name => (constructorKey name, passed (constructorKey name)))) ∧
    (¬ Separate names → constructed? pattern body passed = none) := by
  have locals : (names.map fun name => (constructorKey name, variableName name)).map Prod.snd =
      names.map variableName := List.map_map
  rw [isPattern, isBody, constructed?, readPattern?_lines written, readBody?_lines, mapM_bound?_eq]
  constructor
  · intro separate
    have apart := nodup_variableName_iff.mpr separate.apart
    rw [any_isReserved_eq_false_iff.mpr separate.allowed]
    change (if _ then _ else _) >>= _ = _
    rw [locals, if_pos apart]
    change (names.map _).mapM _ = _
    rw [List.mapM_map]
    exact mapM_eq_some_of_forall fun name among => stored?_of_nodup apart passed among
  · intro together
    cases refused : names.any fun name => isReserved (variableName name) with
    | true => rfl
    | false =>
        have repeated : ¬ (names.map variableName).Nodup := fun apart =>
          together ⟨nodup_variableName_iff.mp apart, any_isReserved_eq_false_iff.mp refused⟩
        change (if _ then _ else _) >>= _ = _
        rw [locals, if_neg repeated]
        rfl

end

private theorem separate_of_isWholeIdentifier {names : List Text} (distinct : names.Nodup)
    (plain : ∀ name ∈ names, isWholeIdentifier name ∧ ¬ isReserved name) : Separate names := by
  have own {name : Text} (among : name ∈ names) : variableName name = name := by
    obtain ⟨whole, allowed⟩ := plain name among
    have identifier := isIdentifier_of_isWholeIdentifier whole
    rw [variableName, bindingName, if_pos (by simp [identifier, allowed]), keyName_whole whole]
  constructor
  · apply List.Pairwise.imp_of_mem ?_ distinct
    intro name other among alsoAmong different shared
    exact different (own among ▸ own alsoAmong ▸ sharesVariable_iff.mp shared)
  · intro name among hides
    rw [hidesReserved_iff, own among] at hides
    exact (plain name among).2 hides

/-- The text of a class, by its fields and the two parts of its constructor. -/
theorem exists_of_classDeclaration {name text : Text} {properties : List (Text × Node)}
    (nonempty : properties ≠ []) (written : classDeclaration name properties = .ok text) :
    ∃ fields patterns, renderFields none properties = .ok fields ∧
      bindingTexts properties = .ok patterns ∧
      text = "export class " ++ name ++ " \x7b\n" ++ indented fields ++ "\n\n  constructor(\x7b" ++
        ("\n" ++ Text.indent 2 (lines patterns) ++ "\n  \x7d") ++ ": \x7b\n" ++
        Text.indent 2 fields ++ "\n  \x7d" ++ constructorFallback properties ++ ") \x7b" ++
        ("\n" ++ Text.indent 2 (lines ((properties.map Prod.fst).map assignmentText)) ++
          "\n  \x7d\n\x7d") := by
  rw [classDeclaration, if_neg (by simpa using nonempty)] at written
  obtain ⟨fields, ofFields, written⟩ := exists_of_bind_eq_ok written
  obtain ⟨patterns, ofPatterns, written⟩ := exists_of_bind_eq_ok written
  refine ⟨fields, patterns, ofFields, ofPatterns, (Except.ok.inj written).symm.trans ?_⟩
  have closing : indented ("\x7d" ++ constructorFallback properties ++ ") \x7b") =
      "  \x7d" ++ constructorFallback properties ++ ") \x7b" := by
    rw [constructorFallback]
    split <;> rfl
  have deeper (text : Text) : indented (indented text) = Text.indent 2 text :=
    Text.indent_indent 1 1 text
  have constructor_eq : indented (constructorText fields patterns properties) =
      lines ["  constructor(\x7b", Text.indent 2 (lines patterns), "  \x7d: \x7b",
        Text.indent 2 fields, "  \x7d" ++ constructorFallback properties ++ ") \x7b",
        Text.indent 2 (lines ((properties.map Prod.fst).map assignmentText)), "  \x7d"] := by
    rw [List.map_map, constructorText, indented, indent_lines, ← closing, ← deeper, ← deeper,
      ← deeper]
    rfl
  rw [constructor_eq]
  simp only [lines, joined, List.append_assoc]
  rfl

/-- The constructor of a class stores in every field what is passed under its key exactly if no
two names share a variable and none hides a reserved word. Otherwise it is no code. A key that
is a literal gets the indentation after each break in it that is not escaped. -/
theorem classDeclaration_stores {α : Type} {name text : Text} {properties : List (Text × Node)}
    (nonempty : properties ≠ []) (written : classDeclaration name properties = .ok text) :
    (∃ fields pattern body, renderFields none properties = .ok fields ∧
      text = "export class " ++ name ++ " \x7b\n" ++ indented fields ++ "\n\n  constructor(\x7b" ++
        pattern ++ ": \x7b\n" ++ Text.indent 2 fields ++ "\n  \x7d" ++
        constructorFallback properties ++ ") \x7b" ++ body ∧
      ∀ passed : Text → α,
        (Separate (properties.map Prod.fst) → constructed? pattern body passed =
          some (properties.map fun (name, _) =>
            (constructorKey name, passed (constructorKey name)))) ∧
        (¬ Separate (properties.map Prod.fst) → constructed? pattern body passed = none)) ∧
    (∀ field ∈ properties, constructorKey field.1 = keyName field.1 ↔
      ∀ c ∈ keyName field.1, Text.isOpenBreak c = false) ∧
    ((properties.map Prod.fst).Nodup →
      (∀ field ∈ properties, isWholeIdentifier field.1 ∧ ¬ isReserved field.1) →
        Separate (properties.map Prod.fst)) := by
  refine ⟨?_, fun _ _ => Text.Literal.indented_eq_self_iff, fun distinct plain =>
    separate_of_isWholeIdentifier distinct (List.forall_mem_map.mpr plain)⟩
  obtain ⟨fields, patterns, ofFields, ofPatterns, isText⟩ :=
    exists_of_classDeclaration nonempty written
  refine ⟨fields, _, _, ofFields, isText, fun passed => ?_⟩
  have alike : List.Forall₂ (fun name text => ∃ default : Option Text,
      (∀ value ∈ default, IsFallback value) ∧ text = bindingText name default)
      (properties.map Prod.fst) patterns := by
    rw [List.forall₂_map_left_iff]
    apply (mapM_eq_ok_iff.mp ofPatterns).imp
    rintro ⟨name, node⟩ pattern ofProperty
    obtain ⟨default, ofNode, ⟨⟩⟩ := exists_of_bind_eq_ok ofProperty
    refine ⟨default, ?_, rfl⟩
    rintro value rfl
    exact isFallback_of_defaultLiteral ofNode
  simpa [List.map_map, Function.comp_def] using constructed?_eq alike passed rfl rfl

/-- Names that are no variables as they are. One is a literal with a break in it. -/
def hyphenProperties : List (Text × Node) := [
  ("first-name", .inline { kind := some .string } none none),
  ("class", .inline { kind := some .integer, default := some (.int 1) } none none),
  ("a\x0bb", .inline { kind := some .string, default := some (.text "it's") } none none)]

theorem classDeclaration_stores_hyphenProperties : ∃ text fields pattern body,
    classDeclaration "A" hyphenProperties = .ok text ∧
    text = "export class " ++ "A" ++ " \x7b\n" ++ indented fields ++ "\n\n  constructor(\x7b" ++
      pattern ++ ": \x7b\n" ++ Text.indent 2 fields ++ "\n  \x7d" ++
      constructorFallback hyphenProperties ++ ") \x7b" ++ body ∧
    constructed? pattern body id = some [
      (("first-name" : Text), ("first-name" : Text)),
      (("class" : Text), ("class" : Text)),
      (("a\x0b    b" : Text), ("a\x0b    b" : Text))] := by
  obtain ⟨text, written⟩ : ∃ text, classDeclaration "A" hyphenProperties = .ok text := ⟨_, rfl⟩
  obtain ⟨fields, pattern, body, -, isText, stores⟩ :=
    (classDeclaration_stores (List.cons_ne_nil _ _) written).1
  exact ⟨text, fields, pattern, body, written, isText, (stores id).1 (by decide)⟩

/-- Two names that are kept apart by a hyphen alone. -/
def likeProperties : List (Text × Node) := [
  ("a-b", .inline { kind := some .string } none none),
  ("a_b", .inline { kind := some .string } none none)]

/-- The hyphen becomes an underscore, and the pattern declares the variable of the other name
again. -/
theorem classDeclaration_repeats_variable : ∃ fields,
    classDeclaration "A" likeProperties =
      .ok ("export class " ++ "A" ++ " \x7b\n" ++ indented fields ++
      "\n\n  constructor(\x7b" ++ "\n    'a-b': a_b,\n    a_b,\n  \x7d" ++ ": \x7b\n" ++
      Text.indent 2 fields ++ "\n  \x7d" ++ " = \x7b\x7d" ++ ") \x7b" ++
      "\n    this['a-b'] = a_b;\n    this.a_b = a_b;\n  \x7d\n\x7d") ∧
    bindingReader.all? (skipSpace "\n    'a-b': a_b,\n    a_b,\n  \x7d") =
      some ([(("a-b" : Text), ("a_b" : Text)), (("a_b" : Text), ("a_b" : Text))], []) := by
  obtain ⟨text, written⟩ : ∃ text, classDeclaration "A" likeProperties = .ok text := ⟨_, rfl⟩
  obtain ⟨fields, patterns, -, ofPatterns, isText⟩ :=
    exists_of_classDeclaration (List.cons_ne_nil _ _) written
  cases ofPatterns
  refine ⟨fields, written.trans (congrArg _ isText), ?_⟩
  have first : bindingReader.read (skipSpace "\n    'a-b': a_b,\n    a_b,\n  \x7d") =
      some ((("a-b" : Text), ("a_b" : Text)), ("a_b,\n  \x7d" : Text)) := by decide
  have second : bindingReader.read "a_b,\n  \x7d" =
      some ((("a_b" : Text), ("a_b" : Text)), ("\x7d" : Text)) := by decide
  rw [ItemReader.all?_of_some first, ItemReader.all?_of_some second,
    ItemReader.all?_of_none (by decide)]
  rfl

end ApiClient.Code
