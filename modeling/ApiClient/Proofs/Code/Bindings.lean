import ApiClient.Proofs.Code.Items
import ApiClient.Proofs.Code.Words

/-! Bindings: the variables of properties, and how code takes the argument of a constructor
apart into them and stores them. Different names can become one variable, and a pattern that
declares a variable twice is no code. -/

namespace ApiClient.Code

/-! ## Variables -/

/-- The variable of a property, as it is read. -/
def variableName (name : Text) : Text :=
  keyName (bindingName name)

/-- What there is of a name in its variable. -/
def stem (name : Text) : Text :=
  if isIdentifier name then keyName name else (Text.withoutMarks name).map plainPart

def takesUnderscore (name : Text) : Bool :=
  if isIdentifier name then isReserved name
  else (stem name).isEmpty || startsWithDigit (stem name) || isReserved (stem name)

/-- Two names that become one variable: alike, or one of them by the underscore it takes. -/
def SharesVariable (name other : Text) : Prop :=
  takesUnderscore name = takesUnderscore other ∧ stem name = stem other ∨
  takesUnderscore name = true ∧ takesUnderscore other = false ∧ stem other = "_" ++ stem name ∨
  takesUnderscore name = false ∧ takesUnderscore other = true ∧ stem name = "_" ++ stem other

/-- A reserved word that is not recognised, as a line feed ends it. -/
def HidesReserved (name : Text) : Prop :=
  ∃ word, isReserved word ∧ name = word ++ ("\n" : Text)

section

variable {name other : Text}

private theorem isIn_plainPart (c : CodePoint) : (plainPart c).isIn isIdentifierPart := by
  rw [plainPart]
  split
  · assumption
  · rfl

theorem isWholeIdentifier_of_isIn (parts : ∀ c ∈ name, c.isIn isIdentifierPart)
    (nonempty : name ≠ []) (letter : startsWithDigit name = false) : isWholeIdentifier name := by
  cases name with
  | nil => exact absurd rfl nonempty
  | cons c rest =>
      obtain ⟨part, others⟩ := List.forall_mem_cons.mp parts
      refine Bool.and_eq_true_iff.mpr ⟨?_, List.all_eq_true.mpr others⟩
      cases c with
      | surrogate index => exact part
      | char c => exact (Bool.or_eq_true_iff.mp part).resolve_right (Bool.not_eq_true _ ▸ letter)

private theorem isWholeIdentifier_underscore (parts : ∀ c ∈ name, c.isIn isIdentifierPart) :
    isWholeIdentifier ("_" ++ name) :=
  isWholeIdentifier_of_isIn (List.forall_mem_cons.mpr ⟨rfl, parts⟩) (List.cons_ne_nil _ _) rfl

theorem exists_of_isReserved (reserved : isReserved name) :
    ∃ word ∈ reservedWords, name = Text.ofString word := by
  obtain ⟨word, listed, same⟩ := List.any_eq_true.mp reserved
  exact ⟨word, listed, eq_of_beq same⟩

private theorem isWholeIdentifier_of_isReserved (reserved : isReserved name) :
    isWholeIdentifier name := by
  have words : ∀ word ∈ reservedWords, isWholeIdentifier word := by decide
  obtain ⟨word, listed, rfl⟩ := exists_of_isReserved reserved
  exact words word listed

private theorem map_plainPart_of_isReserved (reserved : isReserved name) :
    (Text.withoutMarks name).map plainPart = name := by
  have words : ∀ word ∈ reservedWords, (Text.withoutMarks word).map plainPart = word := by
    decide +kernel
  obtain ⟨word, listed, rfl⟩ := exists_of_isReserved reserved
  exact words word listed

private theorem isReserved_underscore (name : Text) : isReserved ("_" ++ name) = false := by
  have letters : ∀ word ∈ reservedWords, (word : Text).head? ≠ some (.char '_') := by decide
  apply Bool.eq_false_iff.mpr
  intro reserved
  obtain ⟨word, listed, same⟩ := exists_of_isReserved reserved
  exact letters word listed (congrArg List.head? same.symm)

private theorem isIn_stem (name : Text) : ∀ c ∈ stem name, c.isIn isIdentifierPart := by
  rw [stem]
  split
  · rename_i identifier
    rw [keyName, if_pos identifier]
    intro c member
    exact List.mem_takeWhile_imp member
  · exact List.forall_mem_map.mpr fun c _ => isIn_plainPart c

theorem isIdentifier_bindingName (name : Text) : isIdentifier (bindingName name) := by
  have parts : ∀ c ∈ (Text.withoutMarks name).map plainPart, c.isIn isIdentifierPart :=
    List.forall_mem_map.mpr fun c _ => isIn_plainPart c
  rw [bindingName]
  split
  · rename_i identifier
    exact (Bool.and_eq_true_iff.mp identifier).1
  · apply isIdentifier_of_isWholeIdentifier
    dsimp only
    split
    · exact isWholeIdentifier_underscore parts
    · rename_i unmarked
      simp only [Bool.or_eq_true, not_or, Bool.not_eq_true, List.isEmpty_eq_false_iff] at unmarked
      exact isWholeIdentifier_of_isIn parts unmarked.1.1 unmarked.1.2

private theorem variableName_eq (name : Text) :
    variableName name = if takesUnderscore name then "_" ++ stem name else stem name := by
  have underscored := keyName_whole (isWholeIdentifier_underscore (isIn_stem name))
  rw [variableName, bindingName, takesUnderscore]
  by_cases identifier : isIdentifier name
  · have same : stem name = keyName name := if_pos identifier
    by_cases reserved : isReserved name
    · have word := keyName_whole (isWholeIdentifier_of_isReserved reserved)
      rw [map_plainPart_of_isReserved reserved]
      simp_all
    · simp_all
  · have plain : (Text.withoutMarks name).map plainPart = stem name := (if_neg identifier).symm
    rw [plain]
    simp only [identifier, Bool.false_and, Bool.false_eq_true, if_false]
    split
    · exact underscored
    · rename_i unmarked
      simp only [Bool.or_eq_true, not_or, Bool.not_eq_true, List.isEmpty_eq_false_iff] at unmarked
      exact keyName_whole (isWholeIdentifier_of_isIn (isIn_stem name) unmarked.1.1 unmarked.1.2)

theorem sharesVariable_iff : SharesVariable name other ↔ variableName name =
    variableName other := by
  rw [SharesVariable, variableName_eq, variableName_eq]
  cases takesUnderscore name <;> cases takesUnderscore other <;> simp [eq_comm]

theorem hidesReserved_iff : HidesReserved name ↔ isReserved (variableName name) := by
  constructor
  · rintro ⟨word, reserved, rfl⟩
    have whole := isWholeIdentifier_of_isReserved reserved
    have identifier := isIdentifier_lineFeed whole
    have allowed : ¬ isReserved (word ++ ("\n" : Text)) := fun reserved =>
      not_isWholeIdentifier_lineFeed word (isWholeIdentifier_of_isReserved reserved)
    rw [variableName_eq, takesUnderscore, if_pos identifier, if_neg allowed, stem,
      if_pos identifier, keyName_lineFeed whole]
    exact reserved
  · intro reserved
    have bare : takesUnderscore name = false := by
      by_contra underscore
      rw [variableName_eq, if_pos (Bool.not_eq_false _ ▸ underscore), isReserved_underscore]
        at reserved
      exact Bool.noConfusion reserved
    rw [variableName_eq, bare, if_neg Bool.false_ne_true] at reserved
    rw [takesUnderscore] at bare
    split at bare
    · rename_i identifier
      rw [stem, if_pos identifier] at reserved
      obtain ⟨whole, isWhole, rfl | rfl⟩ := isIdentifier_cases identifier
      · rw [keyName_whole isWhole, bare] at reserved
        exact Bool.noConfusion reserved
      · rw [keyName_lineFeed isWhole] at reserved
        exact ⟨whole, reserved, rfl⟩
    · rw [reserved, Bool.or_true] at bare
      exact Bool.noConfusion bare

end

/-! ## Reading -/

/-- The variable with which a text begins, and what follows it and the space after it. -/
def readVariable? (text : Text) : Option (Text × Text) := do
  let (name, rest) ← readIdentifier? text
  if isReserved name then none else some (name, rest)

/-- What follows a value that is a text, a number or a truth value. -/
def skipValue? : Text → Option Text
  | .char '\'' :: rest => (Quotation.finish? (.inside []) rest).map Prod.snd
  | text => some (text.dropWhile (·.isIn isNumeric))

/-- What follows a part of a pattern after its variable. A value to fall back on
may stand before the comma. -/
def skipFallback? : Text → Option Text
  | .char '=' :: rest => (skipValue? (skipSpace rest)).bind (Text.remainder? ",")
  | text => Text.remainder? "," text

/-- The variable of a part of a pattern, by what follows the key. A variable alone is its own
key. -/
def readBound? (text : Text) : (afterKey : Text) → Option (Text × Text)
  | .char ':' :: rest => readVariable? (skipSpace rest)
  | _ => readVariable? text

/-- The key of a part of a pattern, the variable for what is passed under it, and what follows
the part and the space after it. -/
def readBinding? (text : Text) : Option ((Text × Text) × Text) := do
  let (key, rest) ← readKey? text
  let (name, rest) ← readBound? text rest
  let rest ← skipFallback? rest
  return ((key, name), skipSpace rest)

example : readBinding? "'a-b': a_b = 'c',\n" = some ((("a-b" : Text), ("a_b" : Text)), []) := by
  decide

/-- The field with which a text begins, and what follows it and the space after it. -/
def readField? (text : Text) : Option (Text × Text) := do
  match ← Text.remainder? "this" text with
  | .char '.' :: rest => readIdentifier? rest
  | rest => (readIndex? rest).map fun (name, rest) => (name, skipSpace rest)

/-- The field that an assignment stores, the variable that it stores in it, and what follows
it and the space after it. -/
def readAssignment? (text : Text) : Option ((Text × Text) × Text) := do
  let (field, rest) ← readField? text
  let rest ← Text.remainder? "=" rest
  let (name, rest) ← readVariable? (skipSpace rest)
  let rest ← Text.remainder? ";" rest
  return ((field, name), skipSpace rest)

example : readAssignment? "this['a-b'] = a_b;\n" = some ((("a-b" : Text), ("a_b" : Text)), []) := by
  decide

section

variable {text rest : Text}

private theorem readVariable?_length {name : Text}
    (found : readVariable? text = some (name, rest)) :
    rest.length ≤ text.length := by
  obtain ⟨⟨other, after⟩, ofName, allowed⟩ := Option.bind_eq_some_iff.mp found
  dsimp only at allowed
  split at allowed
  · cases allowed
  · cases allowed
    exact readIdentifier?_length ofName

private theorem skipValue?_length (found : skipValue? text = some rest) :
    rest.length ≤ text.length := by
  rw [skipValue?.eq_def] at found
  split at found
  · obtain ⟨⟨value, after⟩, finished, rfl⟩ := Option.map_eq_some_iff.mp found
    exact Nat.le_succ_of_le (Quotation.finish?_length finished)
  · cases found
    exact (List.dropWhile_suffix _).length_le

private theorem remainder?_comma_length (found : Text.remainder? "," text = some rest) :
    rest.length < text.length := by
  have length := Text.remainder?_length found
  have comma : 0 < ("," : Text).length := by decide
  omega

private theorem skipFallback?_length (found : skipFallback? text = some rest) :
    rest.length < text.length := by
  rw [skipFallback?.eq_def] at found
  split at found
  · rename_i value
    obtain ⟨after, ofValue, ofComma⟩ := Option.bind_eq_some_iff.mp found
    have within := (skipValue?_length ofValue).trans (skipSpace_length value)
    exact Nat.lt_succ_of_lt ((remainder?_comma_length ofComma).trans_le within)
  · exact remainder?_comma_length found

private theorem readBinding?_length {binding : Text × Text}
    (found : readBinding? text = some (binding, rest)) : rest.length < text.length := by
  simp only [readBinding?, Option.bind_eq_bind, Option.bind_eq_some_iff] at found
  obtain ⟨⟨key, afterKey⟩, ofKey, ⟨name, afterName⟩, ofName, last, ofFallback, ⟨⟩⟩ := found
  have nameLength : afterName.length ≤ text.length := by
    rw [readBound?.eq_def] at ofName
    split at ofName
    · rename_i value follows
      obtain rfl : afterKey = .char ':' :: value := follows
      have within := (readVariable?_length ofName).trans (skipSpace_length value)
      exact (Nat.le_succ_of_le within).trans (readKey?_length ofKey)
    · exact readVariable?_length ofName
  exact (skipSpace_length last).trans_lt ((skipFallback?_length ofFallback).trans_le nameLength)

private theorem readField?_length {field : Text} (found : readField? text = some (field, rest)) :
    rest.length ≤ text.length := by
  obtain ⟨selector, ofThis, selected⟩ := Option.bind_eq_some_iff.mp found
  have thisLength := Text.remainder?_length ofThis
  have selectorLength : rest.length ≤ selector.length := by
    split at selected
    · exact Nat.le_succ_of_le (readIdentifier?_length selected)
    · obtain ⟨⟨name, after⟩, ofIndex, ⟨⟩⟩ := Option.map_eq_some_iff.mp selected
      exact (skipSpace_length after).trans (readIndex?_length ofIndex)
  omega

private theorem readAssignment?_length {assignment : Text × Text}
    (found : readAssignment? text = some (assignment, rest)) : rest.length < text.length := by
  simp only [readAssignment?, Option.bind_eq_bind, Option.bind_eq_some_iff] at found
  obtain ⟨⟨field, afterField⟩, ofField, value, ofEquals, ⟨name, afterName⟩, ofName, last,
    ofEnd, ⟨⟩⟩ := found
  have fieldLength := readField?_length ofField
  have equalsLength := Text.remainder?_length ofEquals
  have nameLength := (readVariable?_length ofName).trans (skipSpace_length value)
  have endLength := Text.remainder?_length ofEnd
  have lastLength := skipSpace_length last
  have semicolon : 0 < (";" : Text).length := by decide
  dsimp only at equalsLength endLength
  omega

end

def bindingReader : ItemReader (Text × Text) := ⟨readBinding?, readBinding?_length⟩

def assignmentReader : ItemReader (Text × Text) := ⟨readAssignment?, readAssignment?_length⟩

/-- What a pattern binds, as keys with variables. No pattern declares a variable twice. -/
def readPattern? (text : Text) : Option (List (Text × Text)) := do
  let (bound, rest) ← bindingReader.all? (skipSpace text)
  if rest = [] ∧ (bound.map Prod.snd).Nodup then some bound else none

/-- What the body of a constructor stores, as fields with variables. The class ends with it. -/
def readBody? (text : Text) : Option (List (Text × Text)) := do
  let (stored, rest) ← assignmentReader.all? (skipSpace text)
  if skipSpace rest = "\x7d" then some stored else none

/-! ## Variables in indented code -/

section

variable (level : Nat) {rest tail : Text}

theorem readVariable?_hang (name : Text) (ends : EndsIdentifier (Text.hang level rest ++ tail)) :
    readVariable? (Text.hang level (bindingName name ++ rest) ++ tail) =
      if isReserved (variableName name) then none
      else some (variableName name, skipSpace (Text.hang level rest ++ tail)) := by
  rw [readVariable?, readIdentifier?_hang (isIdentifier_bindingName name) level ends]
  rfl

theorem skipSpace_hang (name : Text) :
    skipSpace (Text.hang level (bindingName name ++ rest) ++ tail) =
      Text.hang level (bindingName name ++ rest) ++ tail :=
  ((BeginsItem.ofIdentifier (isIdentifier_bindingName name)).append rest).skipSpace_hang level tail

end

end ApiClient.Code
