import ApiClient.Proofs.Code.Addresses
import Mathlib.Data.List.DropRight

/-! Keys as code reads them back. A key is a quoted literal or an identifier, and space
may follow it. An identifier goes on as long as there are parts of one, so a line feed
at its end counts as space. -/

namespace ApiClient.Code

/-! ## Reading -/

/-- Read a literal to its closing quote: its text, and what follows it. -/
def Quotation.finish? : Quotation → Text → Option (Text × Text)
  | .complete text, rest => some (text, rest)
  | .broken, _ => none
  | .inside _, [] | .escaped _, [] => none
  | .inside read, c :: rest => finish? (step (.inside read) c) rest
  | .escaped read, c :: rest => finish? (step (.escaped read) c) rest

def skipSpace (text : Text) : Text :=
  text.dropWhile fun c => c = ' ' ∨ c = '\n'

/-- The identifier with which a text begins, and what follows it and the space after it. -/
def readIdentifier? (text : Text) : Option (Text × Text) :=
  let ⟨identifier, rest⟩ := Text.cut (!·.isIn isIdentifierPart) text
  if isWholeIdentifier identifier then some (identifier, skipSpace rest) else none

/-- The text of a literal in brackets, and what follows them. -/
def readIndex? (text : Text) : Option (Text × Text) := do
  let rest ← Text.remainder? "['" text
  let (name, rest) ← Quotation.finish? (.inside []) rest
  let rest ← Text.remainder? "]" rest
  return (name, rest)

/-- The name for which the key stands with which a text begins, and what follows it and the
space after it. -/
def readKey? : Text → Option (Text × Text)
  | .char '\'' :: rest => do
    let (name, rest) ← Quotation.finish? (.inside []) rest
    return (name, skipSpace rest)
  | text => readIdentifier? text

example : readKey? "'it\\'s' : any" = some (("it's" : Text), (": any" : Text)) := by decide

example : readKey? "it\n: any" = some (("it" : Text), (": any" : Text)) := by decide

/-- The name for which the key of a name stands. -/
def keyName (name : Text) : Text :=
  if isIdentifier name then name.takeWhile (·.isIn isIdentifierPart) else name

/-! ## Literals -/

namespace Quotation

private theorem finish?_append {literal : Quotation} {text read : Text}
    (reads : text.foldl step literal = .inside read) (rest : Text) :
    finish? literal (text ++ rest) = finish? (.inside read) rest := by
  induction text generalizing literal with
  | nil =>
      cases reads
      rfl
  | cons c text induction =>
      cases literal with
      | inside before => exact induction reads
      | escaped before => exact induction reads
      | complete before => exact Quotation.noConfusion ((foldl_step_broken text).symm.trans reads)
      | broken => exact Quotation.noConfusion ((foldl_step_broken text).symm.trans reads)

theorem finish?_body (text rest : Text) :
    finish? (.inside []) (Text.Literal.body text ++ "'" ++ rest) = some (text, rest) := by
  rw [List.append_assoc, finish?_append (read_body [] text)]
  change finish? (.complete text) rest = some (text, rest)
  cases rest <;> rfl

theorem finish?_length {literal : Quotation} {text read rest : Text}
    (found : finish? literal text = some (read, rest)) : rest.length ≤ text.length := by
  induction text generalizing literal with
  | nil =>
      cases literal with
      | complete _ => exact (Prod.mk.inj (Option.some.inj found)).2 ▸ Nat.le_refl _
      | inside _ | escaped _ | broken => cases found
  | cons c text induction =>
      cases literal with
      | complete _ => exact (Prod.mk.inj (Option.some.inj found)).2 ▸ Nat.le_refl _
      | inside _ | escaped _ => exact Nat.le_succ_of_le (induction found)
      | broken => cases found

end Quotation

/-! ## Space -/

@[simp] theorem skipSpace_space (rest : Text) :
    skipSpace (.char ' ' :: rest) = skipSpace rest := rfl

@[simp] theorem skipSpace_lineFeed (rest : Text) :
    skipSpace (.char '\n' :: rest) = skipSpace rest :=
  rfl

theorem skipSpace_lead (level : Nat) (text rest : Text) :
    skipSpace (Text.lead level text ++ rest) = skipSpace rest := by
  have indentation : skipSpace (Text.indentation level ++ rest) = skipSpace rest := by
    induction level with
    | zero => rfl
    | succ level induction => exact induction
  rw [Text.lead]
  split
  · rfl
  · exact indentation

theorem skipSpace_skipSpace (text : Text) : skipSpace (skipSpace text) = skipSpace text :=
  List.dropWhile_idempotent _ text

theorem skipSpace_length (text : Text) : (skipSpace text).length ≤ text.length :=
  (List.dropWhile_suffix _).length_le

/-! ## Identifiers -/

/-- What follows an identifier begins with no part of one. -/
def EndsIdentifier (rest : Text) : Prop :=
  ∀ c ∈ rest.head?, c.isIn isIdentifierPart = false

theorem EndsIdentifier.cons {c : CodePoint} (noPart : c.isIn isIdentifierPart = false)
    (rest : Text) : EndsIdentifier (c :: rest) :=
  fun _ first => Option.some.inj first ▸ noPart

theorem readIdentifier?_length {text name rest : Text}
    (found : readIdentifier? text = some (name, rest)) : rest.length ≤ text.length := by
  change (if isWholeIdentifier (Text.cut (!·.isIn isIdentifierPart) text).1 then some (_, _)
    else none) = some (name, rest) at found
  split at found
  · obtain ⟨-, rfl⟩ := Prod.mk.inj (Option.some.inj found)
    exact (skipSpace_length _).trans (Text.cut_length_le _ _)
  · cases found

section

variable {name : Text}

private theorem continues_cases (continues : Identifier.continues name) :
    ∃ parts : Text, (∀ c ∈ parts, c.isIn isIdentifierPart) ∧
      (name = parts ∨ name = parts ++ ("\n" : Text)) := by
  induction name using Identifier.continues.induct with
  | case1 => exact ⟨[], by simp, .inl rfl⟩
  | case2 => exact ⟨[], by simp, .inr rfl⟩
  | case3 c rest _ induction =>
      rw [Identifier.continues, Bool.and_eq_true] at continues
      · obtain ⟨parts, each, split⟩ := induction continues.2
        refine ⟨c :: parts, List.forall_mem_cons.mpr ⟨continues.1, each⟩, ?_⟩
        rcases split with rfl | rfl
        · exact .inl rfl
        · exact .inr rfl
      · assumption

/-- An identifier is whole, or whole up to a line feed. -/
theorem isIdentifier_cases (identifier : isIdentifier name) :
    ∃ whole, isWholeIdentifier whole ∧ (name = whole ∨ name = whole ++ ("\n" : Text)) := by
  cases name with
  | nil => exact Bool.noConfusion identifier
  | cons c rest =>
      obtain ⟨start, continues⟩ := Bool.and_eq_true_iff.mp identifier
      obtain ⟨parts, each, split⟩ := continues_cases continues
      refine ⟨c :: parts, Bool.and_eq_true_iff.mpr ⟨start, List.all_eq_true.mpr each⟩, ?_⟩
      rcases split with rfl | rfl
      · exact .inl rfl
      · exact .inr rfl

private theorem cut_whole (whole : isWholeIdentifier name) {rest : Text}
    (ends : EndsIdentifier rest) :
    Text.cut (!·.isIn isIdentifierPart) (name ++ rest) = (name, rest) := by
  have parts := isIn_of_isWholeIdentifier whole
  have passes : ∀ c ∈ name, (!!c.isIn isIdentifierPart) = true := by simpa using parts
  rw [Text.cut, List.takeWhile_append_of_pos passes, List.dropWhile_append_of_pos passes]
  cases rest with
  | nil => simp
  | cons c rest => simp [ends c rfl]

theorem readIdentifier?_whole (whole : isWholeIdentifier name) {rest : Text}
    (ends : EndsIdentifier rest) :
    readIdentifier? (name ++ rest) = some (name, skipSpace rest) := by
  rw [readIdentifier?, cut_whole whole ends]
  exact if_pos whole

theorem keyName_whole (whole : isWholeIdentifier name) : keyName name = name := by
  rw [keyName, if_pos (isIdentifier_of_isWholeIdentifier whole)]
  exact List.takeWhile_eq_self_iff.mpr (isIn_of_isWholeIdentifier whole)

private theorem continues_lineFeed (parts : ∀ c ∈ name, c.isIn isIdentifierPart) :
    Identifier.continues (name ++ ("\n" : Text)) := by
  induction name with
  | nil => rfl
  | cons c rest induction =>
      obtain ⟨part, others⟩ := List.forall_mem_cons.mp parts
      rw [List.cons_append, Identifier.continues]
      · exact Bool.and_eq_true_iff.mpr ⟨part, induction others⟩
      · intro lineFeed
        exact absurd lineFeed (ne_of_isIn part rfl)

theorem isIdentifier_lineFeed (whole : isWholeIdentifier name) :
    isIdentifier (name ++ ("\n" : Text)) := by
  cases name with
  | nil => exact Bool.noConfusion whole
  | cons c rest =>
      obtain ⟨start, others⟩ := Bool.and_eq_true_iff.mp whole
      exact Bool.and_eq_true_iff.mpr ⟨start, continues_lineFeed (List.all_eq_true.mp others)⟩

theorem keyName_lineFeed (whole : isWholeIdentifier name) :
    keyName (name ++ ("\n" : Text)) = name := by
  rw [keyName, if_pos (isIdentifier_lineFeed whole),
    List.takeWhile_append_of_pos (isIn_of_isWholeIdentifier whole)]
  exact List.append_nil name

theorem not_isWholeIdentifier_lineFeed (name : Text) :
    ¬ isWholeIdentifier (name ++ ("\n" : Text)) := by
  intro whole
  have part := isIn_of_isWholeIdentifier whole '\n' (List.mem_append_right name List.mem_cons_self)
  exact Bool.noConfusion part

/-- An identifier is read wherever no part of one follows. -/
theorem readIdentifier?_append (identifier : isIdentifier name) {rest : Text}
    (ends : EndsIdentifier rest) :
    readIdentifier? (name ++ rest) = some (keyName name, skipSpace rest) := by
  obtain ⟨whole, isWhole, rfl | rfl⟩ := isIdentifier_cases identifier
  · rw [readIdentifier?_whole isWhole ends, keyName_whole isWhole]
  · have atBreak : EndsIdentifier (("\n" : Text) ++ rest) := .cons rfl _
    rw [List.append_assoc, readIdentifier?_whole isWhole atBreak, keyName_lineFeed isWhole]
    rfl

theorem exists_of_isIdentifier (identifier : isIdentifier name) :
    ∃ c rest, name = c :: rest ∧ c.isIn isIdentifierPart := by
  cases name with
  | nil => exact Bool.noConfusion identifier
  | cons c rest =>
      refine ⟨c, rest, rfl, ?_⟩
      cases c with
      | surrogate index => exact Bool.noConfusion identifier
      | char c => exact Bool.or_eq_true_iff.mpr (.inl (Bool.and_eq_true_iff.mp identifier).1)

private theorem readKey?_append (identifier : isIdentifier name) (rest : Text) :
    readKey? (name ++ rest) = readIdentifier? (name ++ rest) := by
  obtain ⟨c, others, rfl, part⟩ := exists_of_isIdentifier identifier
  rw [List.cons_append, readKey?]
  intro _ quote
  exact ne_of_isIn part rfl (List.cons.inj quote).1

end

/-! ## Keys -/

theorem readIndex?_length {text name rest : Text}
    (found : readIndex? text = some (name, rest)) : rest.length ≤ text.length := by
  simp only [readIndex?, Option.bind_eq_bind, Option.bind_eq_some_iff] at found
  obtain ⟨literal, ofOpening, ⟨name, after⟩, ofName, last, ofClosing, ⟨⟩⟩ := found
  have openingLength := Text.remainder?_length ofOpening
  have nameLength := Quotation.finish?_length ofName
  have closingLength := Text.remainder?_length ofClosing
  dsimp only at closingLength
  omega

theorem readIndex?_quoted (name rest : Text) :
    readIndex? ("[" ++ (quoted name ++ ("]" ++ rest))) = some (name, rest) := by
  have opens : ("[" : Text) ++ (quoted name ++ ("]" ++ rest)) =
      "['" ++ (Text.Literal.body name ++ "'" ++ ("]" ++ rest)) := rfl
  rw [opens, readIndex?, Text.remainder?_append]
  change (do
    let (name, rest) ← Quotation.finish? (.inside [])
      (Text.Literal.body name ++ "'" ++ ("]" ++ rest))
    let rest ← Text.remainder? "]" rest
    return (name, rest)) = _
  rw [Quotation.finish?_body]
  change (do
    let rest ← Text.remainder? "]" (("]" : Text) ++ rest)
    return (name, rest)) = _
  rw [Text.remainder?_append]
  rfl

theorem readKey?_length {text name rest : Text}
    (found : readKey? text = some (name, rest)) : rest.length ≤ text.length := by
  rw [readKey?.eq_def] at found
  split at found
  · simp only [Option.bind_eq_bind, Option.bind_eq_some_iff] at found
    obtain ⟨⟨read, after⟩, finished, ⟨⟩⟩ := found
    exact (skipSpace_length _).trans (Nat.le_succ_of_le (Quotation.finish?_length finished))
  · exact readIdentifier?_length found

theorem readKey?_quoted (name rest : Text) :
    readKey? (quoted name ++ rest) = some (name, skipSpace rest) := by
  change (do
    let (name, rest) ← Quotation.finish? (.inside []) (Text.Literal.body name ++ "'" ++ rest)
    return (name, skipSpace rest)) = some (name, skipSpace rest)
  rw [Quotation.finish?_body]
  rfl

/-- A key stands for its name wherever no part of an identifier follows. -/
theorem readKey?_propertyKey (name : Text) {rest : Text} (ends : EndsIdentifier rest) :
    readKey? (propertyKey name ++ rest) = some (keyName name, skipSpace rest) := by
  rw [propertyKey]
  split
  · rename_i identifier
    rw [readKey?_append identifier, readIdentifier?_append identifier ends]
  · rename_i notIdentifier
    rw [readKey?_quoted, keyName, if_neg notIdentifier]

end ApiClient.Code
