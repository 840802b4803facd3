import ApiClient.Api.Module
import ApiClient.Proofs.Code.Reading

/-! Words of generated code: names and numbers. They hold no code point that means something to a
scanner, so they are read without a trace. -/

namespace ApiClient.Code

def IsPlain (text : Text) : Prop :=
  ∀ c ∈ text, c ∉ Scanner.signs

instance (text : Text) : Decidable (IsPlain text) :=
  inferInstanceAs (Decidable (∀ c ∈ text, _))

namespace IsPlain

theorem balanced {text : Text} (plain : IsPlain text) : Balanced text := by
  intro outside
  induction text with
  | nil => rfl
  | cons c text induction =>
      have stays := Scanner.stepCode_of_not_mem (plain c List.mem_cons_self) outside
      exact (congrArg (Scanner.scan · text) stays).trans
        (induction fun d member => plain d (List.mem_cons_of_mem c member))

theorem append {text rest : Text} (first : IsPlain text) (second : IsPlain rest) :
    IsPlain (text ++ rest) := by
  intro c member
  rcases List.mem_append.mp member with member | member
  · exact first c member
  · exact second c member

/-- A class of characters without signs. -/
theorem of_isIn (among : Char → Bool) (noSign : ∀ sign ∈ Scanner.signs, sign.isIn among = false)
    {text : Text} (all : ∀ c ∈ text, c.isIn among) : IsPlain text := by
  intro c member sign
  exact Bool.noConfusion ((all c member).symm.trans (noSign c sign))

end IsPlain

/-! ## Names -/

private theorem isIn_of_continues {text : Text} (continues : Identifier.continues text) :
    ∀ c ∈ text, c.isIn isIdentifierPart ∨ c = '\n' := by
  induction text using Identifier.continues.induct with
  | case1 => simp
  | case2 => simp
  | case3 c rest _ induction =>
      rw [Identifier.continues, Bool.and_eq_true] at continues
      · intro d member
        rcases List.mem_cons.mp member with rfl | member
        · exact .inl continues.1
        · exact induction continues.2 d member
      · assumption

theorem isIn_of_isIdentifier {name : Text} (identifier : isIdentifier name) :
    ∀ c ∈ name, c.isIn isIdentifierPart ∨ c = '\n' := by
  cases name with
  | nil => exact Bool.noConfusion identifier
  | cons c rest =>
      have ⟨start, continues⟩ := Bool.and_eq_true_iff.mp identifier
      intro d member
      rcases List.mem_cons.mp member with rfl | member
      · cases d with
        | surrogate index => exact Bool.noConfusion start
        | char c => exact .inl (Bool.or_eq_true_iff.mpr (.inl start))
      · exact isIn_of_continues continues d member

theorem isPlain_of_isIdentifier {name : Text} (identifier : isIdentifier name) : IsPlain name := by
  have noSign : ∀ sign ∈ Scanner.signs, sign.isIn isIdentifierPart = false ∧ sign ≠ '\n' := by
    decide
  intro c member sign
  rcases isIn_of_isIdentifier identifier c member with part | rfl
  · exact Bool.noConfusion (part.symm.trans (noSign c sign).1)
  · exact (noSign _ sign).2 rfl

private theorem isAlphanumeric_toUpper {c : Char} (alphanumeric : isAlphanumeric c) :
    c.toNat < 0x80 ∧ isAlphanumeric c.toUpper := by
  have ascii : c.toNat < 0x80 := by
    simp only [isAlphanumeric, Bool.or_eq_true, Bool.and_eq_true, decide_eq_true_eq,
      Char.le_def, UInt32.le_iff_toNat_le] at alphanumeric
    change c.val.toNat < 128
    have letters : ('Z' : Char).val.toNat = 90 ∧ ('z' : Char).val.toNat = 122 ∧
      ('9' : Char).val.toNat = 57 := by decide
    omega
  have all : ∀ code < 0x80, isAlphanumeric (Char.ofNat code) →
    isAlphanumeric (Char.ofNat code).toUpper := by decide
  have same : Char.ofNat c.toNat = c := Char.ofNat_toNat c
  exact ⟨ascii, by simpa [same] using all c.toNat ascii (by rwa [same])⟩

/-- The form of a name that is one word, or of several words, holds letters and digits alone. -/
theorem isIn_capitalized {word : Text} (all : ∀ c ∈ word, c.isIn isAlphanumeric) :
    ∀ c ∈ Text.capitalized word, c.isIn isAlphanumeric := by
  cases word with
  | nil => simp [Text.capitalized]
  | cons first rest =>
      cases first with
      | surrogate index => exact Bool.noConfusion (all (.surrogate index) List.mem_cons_self)
      | char first =>
          obtain ⟨ascii, upper⟩ := isAlphanumeric_toUpper (all first List.mem_cons_self)
          intro c member
          simp only [Text.capitalized, Text.uppercase, if_pos ascii, Text.ofCharacters,
            List.map_cons, List.map_nil, List.cons_append, List.nil_append,
            List.mem_cons] at member
          rcases member with rfl | member
          · exact upper
          · exact all c (List.mem_cons_of_mem _ member)

theorem isIn_joinWords (text : Text) : ∀ c ∈ joinWords text, c.isIn isAlphanumeric := by
  have words {word : Text} (part : word ∈ Text.split (!·.isIn isAlphanumeric) text) :
      ∀ c ∈ word, c.isIn isAlphanumeric := by
    intro c member
    simpa using Text.not_separates_of_mem_split part member
  intro c member
  rw [joinWords] at member
  split at member
  · rename_i word single
    exact words (single ▸ List.mem_singleton_self word) c member
  · obtain ⟨word, part, inWord⟩ := List.mem_flatMap.mp member
    exact isIn_capitalized (words part) c inWord

private theorem isPlain_classNameOfPlain (text : Text) : IsPlain (classNameOfPlain text) := by
  have underscore : IsPlain "_" := by decide
  have completed (word : Text) (plain : IsPlain word) : IsPlain
      (if word.isEmpty then "Unnamed" else if isReserved word then word ++ "_" else word) := by
    split
    · decide
    · split
      · exact plain.append underscore
      · exact plain
  have word : IsPlain (joinWords text) := .of_isIn isAlphanumeric (by decide) (isIn_joinWords text)
  apply completed
  split
  · exact underscore.append word
  · exact word

theorem isPlain_classNameFor (space tag : Text) : IsPlain (classNameFor space tag) := by
  have name : IsPlain (className tag) := isPlain_classNameOfPlain _
  rw [classNameFor]
  split
  · exact name.append (by decide)
  · exact name

theorem isPlain_bindingName (name : Text) : IsPlain (bindingName name) := by
  have parts : IsPlain ((Text.withoutMarks name).map plainPart) := by
    apply IsPlain.of_isIn isIdentifierPart (by decide)
    intro c member
    obtain ⟨d, _, rfl⟩ := List.mem_map.mp member
    rw [plainPart]
    split
    · assumption
    · rfl
  rw [bindingName]
  split
  · rename_i identifier
    exact isPlain_of_isIdentifier (Bool.and_eq_true_iff.mp identifier).1
  · dsimp only
    split
    · exact IsPlain.append (by decide) parts
    · exact parts

/-! ## Numbers -/

/-- What numbers are written with, also the infinite ones and what is no number. -/
def isNumeric (c : Char) : Bool :=
  isAlphanumeric c || c == '.' || c == '-' || c == '+'

def IsNumeral (text : List Char) : Prop :=
  ∀ c ∈ text, isNumeric c

instance (text : List Char) : Decidable (IsNumeral text) :=
  List.decidableBAll (fun c => isNumeric c = true) text

namespace IsNumeral

theorem append {text rest : List Char} (first : IsNumeral text) (second : IsNumeral rest) :
    IsNumeral (text ++ rest) :=
  List.forall_mem_append.mpr ⟨first, second⟩

theorem cons {c : Char} {rest : List Char} (first : isNumeric c) (second : IsNumeral rest) :
    IsNumeral (c :: rest) :=
  List.forall_mem_cons.mpr ⟨first, second⟩

theorem toDigits (number : Nat) : IsNumeral (Nat.toDigits 10 number) := by
  intro c member
  have digit := Nat.isDigit_of_mem_toDigits (by decide) (by decide) member
  simp only [Char.isDigit, Bool.and_eq_true, decide_eq_true_eq] at digit
  simp only [isNumeric, isAlphanumeric, Bool.or_eq_true, Bool.and_eq_true, decide_eq_true_eq]
  exact .inl (.inl (.inl (.inr digit)))

private theorem zeros (count : Nat) : IsNumeral (Binary64.zeros count) := by
  intro c member
  obtain rfl := List.eq_of_mem_replicate member
  rfl

private theorem stripZeros {digits : List Char} (numeral : IsNumeral digits) :
    IsNumeral (Binary64.stripZeros digits) := by
  induction digits with
  | nil => exact numeral
  | cons c rest induction =>
      have ⟨first, others⟩ := List.forall_mem_cons.mp numeral
      rw [Binary64.stripZeros]
      split
      · split
        · exact fun _ member => absurd member List.not_mem_nil
        · exact cons first fun _ member => absurd member List.not_mem_nil
      · exact cons first (induction others)

private theorem positional {digits : List Char} (numeral : IsNumeral digits) (before : Int) :
    IsNumeral (Binary64.positional digits before) := by
  unfold Binary64.positional
  split
  · exact cons rfl (cons rfl numeral)
  · exact cons rfl (cons rfl ((zeros _).append numeral))
  · rename_i count
    have padded := numeral.append (zeros (count + 1 - digits.length))
    apply append fun c member => padded c (List.mem_of_mem_take member)
    apply cons rfl
    split
    · decide
    · exact fun c member => padded c (List.mem_of_mem_drop member)

private theorem exponentText (exponent : Int) : IsNumeral (Binary64.exponentText exponent) := by
  have digits := toDigits exponent.natAbs
  unfold Binary64.exponentText
  exact cons (by split <;> rfl) ((zeros _).append digits)

private theorem scientific {digits : List Char} (numeral : IsNumeral digits) (exponent : Int) :
    IsNumeral (Binary64.scientific digits exponent) := by
  unfold Binary64.scientific
  split
  · exact numeral
  · rename_i digit
    exact cons (numeral digit List.mem_cons_self) (cons rfl (exponentText exponent))
  · rename_i digit rest _
    have ⟨first, others⟩ := List.forall_mem_cons.mp numeral
    exact cons first (cons rfl (append others (cons rfl (exponentText exponent))))

private theorem magnitude (layout : Binary64.Layout) (significand : Nat) (exponent : Int) :
    IsNumeral (layout.magnitude significand exponent) := by
  unfold Binary64.Layout.magnitude
  split
  · decide
  · have digits := (toDigits (Binary64.shortest significand exponent).1).stripZeros
    dsimp only
    split
    · exact digits.positional _
    · exact digits.scientific _

theorem isPlain {text : List Char} (numeral : IsNumeral text) :
    IsPlain (Text.ofCharacters text) := by
  apply IsPlain.of_isIn isNumeric (by decide)
  intro c member
  obtain ⟨d, inText, rfl⟩ := List.mem_map.mp member
  exact numeral d inText

end IsNumeral

theorem isNumeral_ofInt (number : Int) : IsNumeral (toString number).toList := by
  rw [Int.toString_eq_repr, Int.repr_eq_if]
  split
  · rw [Nat.toList_repr]
    exact .toDigits _
  · rw [String.toList_append, Nat.toList_repr]
    exact IsNumeral.append (by decide) (.toDigits _)

theorem isNumeral_real (value : Binary64) : IsNumeral (Json.layout.text value).toList := by
  cases value with
  | finite negative significand exponent =>
      have magnitude := IsNumeral.magnitude Json.layout significand exponent
      rw [Binary64.Layout.text, String.toList_ofList]
      split
      · exact magnitude.cons rfl
      · exact magnitude
  | infinite negative => cases negative <;> decide
  | notANumber => decide

end ApiClient.Code
