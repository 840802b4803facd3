import ApiClient.Proofs.Api.ClassNames
import ApiClient.Proofs.Code.Words

/-! Names that a class can have. What is made of a tag holds letters and digits alone, and no
repair of it undoes another one: an underscore goes in front of a digit, another one behind a
reserved word, and where nothing is left there is a name for that. -/

namespace ApiClient

/-- A dollar sign, which an identifier could begin with, is not used for a class. -/
def isClassNameStart (c : Char) : Bool :=
  ('A' ≤ c && c ≤ 'Z') || ('a' ≤ c && c ≤ 'z') || c == '_'

def isClassNamePart (c : Char) : Bool :=
  isClassNameStart c || ('0' ≤ c && c ≤ '9')

/-- A letter or an underscore, and after it letters, digits and underscores. -/
def isClassWord : Text → Bool
  | [] => false
  | first :: rest => first.isIn isClassNameStart && rest.all (·.isIn isClassNamePart)

example : isClassWord "_2fa" ∧ ¬isClassWord "2fa" ∧ ¬isClassWord "a$" := by decide

structure IsClassName (name : Text) : Prop where
  word : isClassWord name
  free : ∀ reserved ∈ reservedWords, name ≠ reserved

private theorem isReserved_eq_false_iff {name : Text} :
    isReserved name = false ↔ ∀ reserved ∈ reservedWords, name ≠ reserved := by
  simp [isReserved]

/-! ## Words -/

private theorem isIn_isClassNamePart {c : CodePoint} (alphanumeric : c.isIn isAlphanumeric) :
    c.isIn isClassNamePart := by
  cases c with
  | surrogate index => exact Bool.noConfusion alphanumeric
  | char c =>
      simp only [CodePoint.isIn, isAlphanumeric, Bool.or_eq_true] at alphanumeric
      simp only [CodePoint.isIn, isClassNamePart, isClassNameStart, Bool.or_eq_true]
      tauto

private theorem isIn_isClassNameStart {c : CodePoint} (alphanumeric : c.isIn isAlphanumeric)
    (noDigit : c.isIn isDigit = false) : c.isIn isClassNameStart := by
  cases c with
  | surrogate index => exact Bool.noConfusion alphanumeric
  | char c =>
      change isDigit c = false at noDigit
      simp only [CodePoint.isIn, isAlphanumeric, Bool.or_eq_true] at alphanumeric
      simp only [CodePoint.isIn, isClassNameStart, Bool.or_eq_true]
      rcases alphanumeric with letter | digit
      · exact .inl letter
      · exact Bool.noConfusion (noDigit.symm.trans digit)

theorem isClassWord_append {name rest : Text} (word : isClassWord name)
    (parts : ∀ c ∈ rest, c.isIn isClassNamePart) : isClassWord (name ++ rest) := by
  cases name with
  | nil => exact Bool.noConfusion word
  | cons first others =>
      obtain ⟨start, each⟩ := Bool.and_eq_true_iff.mp word
      rw [List.cons_append]
      refine Bool.and_eq_true_iff.mpr ⟨start, ?_⟩
      rw [List.all_append, each]
      exact List.all_eq_true.mpr parts

/-- Letters and digits are a word, or become one by an underscore in front of a digit. -/
theorem isClassWord_of_isAlphanumeric {text : Text} (each : ∀ c ∈ text, c.isIn isAlphanumeric)
    (nonempty : text ≠ []) : isClassWord (if startsWithDigit text then "_" ++ text else text) := by
  have parts : ∀ c ∈ text, c.isIn isClassNamePart :=
    fun c member => isIn_isClassNamePart (each c member)
  split
  · have underscore : isClassWord "_" := rfl
    exact isClassWord_append underscore parts
  · rename_i noDigit
    cases text with
    | nil => exact absurd rfl nonempty
    | cons first rest =>
        have start :=
          isIn_isClassNameStart (each first List.mem_cons_self) (Bool.eq_false_iff.mpr noDigit)
        exact Bool.and_eq_true_iff.mpr
          ⟨start, List.all_eq_true.mpr fun c member => parts c (List.mem_cons_of_mem first member)⟩

/-! ## Reserved words -/

/-- A text whose last code point ends no reserved word is none. -/
theorem ne_of_getLast? {name : Text} (last : CodePoint) (ends : name.getLast? = some last)
    (unused : ∀ reserved ∈ reservedWords, (reserved : Text).getLast? ≠ some last) :
    ∀ reserved ∈ reservedWords, name ≠ reserved := by
  rintro reserved member rfl
  exact unused reserved member ends

private theorem isClassName_completed {word : Text} (isWord : word ≠ [] → isClassWord word) :
    IsClassName
      (if word.isEmpty then "Unnamed" else if isReserved word then word ++ "_" else word) := by
  split
  · exact ⟨rfl, by decide⟩
  · rename_i nonempty
    have legal := isWord (by simpa using nonempty)
    split
    · refine ⟨isClassWord_append legal (by decide), ne_of_getLast? '_' ?_ (by decide)⟩
      rw [List.getLast?_append]
      rfl
    · rename_i free
      exact ⟨legal, isReserved_eq_false_iff.mp (Bool.eq_false_iff.mpr free)⟩

private theorem isClassName_classNameOfPlain (plain : Text) :
    IsClassName (classNameOfPlain plain) := by
  apply isClassName_completed
  intro nonempty
  refine isClassWord_of_isAlphanumeric (Code.isIn_joinWords plain) ?_
  intro none
  rw [none] at nonempty
  exact nonempty rfl

/-- The class of a tag has a legal name, whatever text is left of the tag when its marks are
taken away. -/
theorem className_legal :
    (∀ plain, IsClassName (classNameOfPlain plain)) ∧ ∀ tag, IsClassName (className tag) :=
  ⟨isClassName_classNameOfPlain, fun _ => isClassName_classNameOfPlain _⟩

/-- The suffix of a name that would hide another one makes it neither illegal nor reserved. -/
theorem isClassName_of_mem_classNames {space name : Text} {endpoints : List Endpoint}
    (member : name ∈ classNames space endpoints) : IsClassName name := by
  obtain ⟨endpoint, -, tag, -, rfl⟩ := mem_classNames_iff.mp member
  have legal : IsClassName (className tag) := isClassName_classNameOfPlain _
  rw [classNameFor]
  split
  · refine ⟨isClassWord_append legal.word (by decide), ne_of_getLast? 'i' ?_ (by decide)⟩
    rw [List.getLast?_append]
    rfl
  · exact legal

end ApiClient
