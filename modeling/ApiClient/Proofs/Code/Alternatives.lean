import ApiClient.Proofs.Code.Literals

/-! Unions as precedence has them. A bar in code divides a type into alternatives if it stands
outside of all brackets, and it binds less than anything else. The alternatives of a type are
what remains between such bars, and a type that is not divided is one as a whole. -/

namespace ApiClient.Code

namespace Scanner

/-- In code, outside of all brackets. A slash by which no comment begins is code. -/
def IsOutermost (scanner : Scanner) : Prop :=
  scanner.enclosing = [] ∧ (scanner.mode = .code ∨ scanner.mode = .slash)

instance (scanner : Scanner) : Decidable scanner.IsOutermost :=
  inferInstanceAs (Decidable (_ ∧ _))

def alternatives (scanner : Scanner) : Text → List Text
  | [] => [[]]
  | c :: rest =>
    if c = '|' ∧ scanner.IsOutermost then [] :: alternatives (scanner.step c) rest
    else
      match alternatives (scanner.step c) rest with
      | [] => [[c]]
      | first :: others => (c :: first) :: others

/-- A text in which no bar divides alternatives. -/
def IsUndivided (scanner : Scanner) (text : Text) : Prop :=
  scanner.alternatives text = [text]

instance (scanner : Scanner) (text : Text) : Decidable (scanner.IsUndivided text) :=
  inferInstanceAs (Decidable (_ = _))

end Scanner

/-- The alternatives of a union. A type that is no union is the only one. -/
def alternatives (type : Text) : List Text :=
  Scanner.start.alternatives type

example : alternatives "'|'|(a|b)[]/*|*/" = ["'|'", "(a|b)[]/*|*/"] := by decide

namespace Scanner

variable {scanner : Scanner}

private theorem alternatives_ne_nil (scanner : Scanner) (text : Text) :
    scanner.alternatives text ≠ [] := by
  cases text with
  | nil => exact List.cons_ne_nil _ _
  | cons c rest =>
      rw [alternatives]
      split
      · exact List.cons_ne_nil _ _
      · split <;> exact List.cons_ne_nil _ _

theorem isUndivided_cons_iff {c : CodePoint} {rest : Text} :
    scanner.IsUndivided (c :: rest) ↔
      ¬(c = '|' ∧ scanner.IsOutermost) ∧ (scanner.step c).IsUndivided rest := by
  unfold IsUndivided
  rw [alternatives]
  split
  · rename_i divides
    simp [divides]
  · rename_i stays
    have nonempty := alternatives_ne_nil (scanner.step c) rest
    split
    · contradiction
    · rename_i first others parts
      simp [stays, parts]

theorem isUndivided_append_iff {text rest : Text} :
    scanner.IsUndivided (text ++ rest) ↔
      scanner.IsUndivided text ∧ (scanner.scan text).IsUndivided rest := by
  induction text generalizing scanner with
  | nil => exact (and_iff_right rfl).symm
  | cons c text induction =>
      rw [List.cons_append, isUndivided_cons_iff, isUndivided_cons_iff, induction, scan_cons,
        and_assoc]

theorem isUndivided_of_not_mem {text : Text} (absent : CodePoint.char '|' ∉ text) :
    scanner.IsUndivided text := by
  induction text generalizing scanner with
  | nil => rfl
  | cons c text induction =>
      rw [List.mem_cons, not_or] at absent
      exact isUndivided_cons_iff.mpr
        ⟨fun divides => absent.1 divides.1.symm, induction absent.2⟩

/-! ## Inside brackets

What is further outside neither changes what is read nor is changed, as long as only brackets are
closed that have been opened. -/

private theorem mode_step_of_broken (broken : scanner.mode = .broken) (c : CodePoint) :
    (scanner.step c).mode = .broken := by
  obtain ⟨enclosing, mode⟩ := scanner
  subst broken
  rfl

private theorem mode_scan_of_broken (broken : scanner.mode = .broken) (text : Text) :
    (scanner.scan text).mode = .broken := by
  induction text generalizing scanner with
  | nil => exact broken
  | cons c text induction => exact induction (mode_step_of_broken broken c)

/-- The same place with more brackets around it. -/
def within (outside : List Bracket) (scanner : Scanner) : Scanner :=
  ⟨scanner.enclosing ++ outside, scanner.mode⟩

private theorem closing_within {bracket : Bracket} {enclosing : List Bracket}
    (outside : List Bracket) (whole : (closing bracket enclosing).mode ≠ .broken) :
    closing bracket (enclosing ++ outside) = (closing bracket enclosing).within outside := by
  cases enclosing with
  | nil => exact absurd rfl whole
  | cons other enclosing =>
      rw [List.cons_append, closing, closing]
      split <;> rfl

private theorem closingCurly_within {enclosing : List Bracket} (outside : List Bracket)
    (whole : (closingCurly enclosing).mode ≠ .broken) :
    closingCurly (enclosing ++ outside) = (closingCurly enclosing).within outside := by
  cases enclosing with
  | nil => exact absurd rfl whole
  | cons bracket enclosing =>
      cases bracket with
      | placeholder => rfl
      | round | square | curly => exact closing_within outside whole

private theorem stepCode_within {enclosing : List Bracket} {c : CodePoint} (outside : List Bracket)
    (whole : (stepCode enclosing c).mode ≠ .broken) :
    stepCode (enclosing ++ outside) c = (stepCode enclosing c).within outside := by
  by_cases isSign : c ∈ signs
  · have sign : c = '(' ∨ c = ')' ∨ c = '[' ∨ c = ']' ∨ c = '\x7b' ∨ c = '\x7d' ∨
        c = '\'' ∨ c = '"' ∨ c = '\x60' ∨ c = '/' := by
      simpa [signs, Text.ofString, Text.ofCharacters] using isSign
    rcases sign with rfl | rfl | rfl | rfl | rfl | rfl | rfl | rfl | rfl | rfl
    case inr.inl => exact closing_within outside whole
    case inr.inr.inr.inl => exact closing_within outside whole
    case inr.inr.inr.inr.inr.inl => exact closingCurly_within outside whole
    all_goals rfl
  · rw [stepCode_of_not_mem isSign, stepCode_of_not_mem isSign]
    rfl

private theorem step_within {c : CodePoint} (outside : List Bracket)
    (whole : (scanner.step c).mode ≠ .broken) :
    (scanner.within outside).step c = (scanner.step c).within outside := by
  obtain ⟨enclosing, mode⟩ := scanner
  cases mode with
  | code => exact stepCode_within outside whole
  | slash =>
      simp only [step, within] at whole ⊢
      split
      · rfl
      · rename_i noStar
        rw [if_neg noStar] at whole
        exact stepCode_within outside whole
  | dollar =>
      simp only [step, within]
      split <;> rfl
  | comment | star | literal _ | escape _ | template | templateEscape | broken => rfl

private theorem isUndivided_within {outside : List Bracket} (inside : outside ≠ []) {text : Text}
    (whole : (scanner.scan text).mode ≠ .broken) : (scanner.within outside).IsUndivided text := by
  induction text generalizing scanner with
  | nil => rfl
  | cons c text induction =>
      have unbroken : (scanner.step c).mode ≠ .broken := fun broken =>
        whole (mode_scan_of_broken broken text)
      have enclosed : ¬ (scanner.within outside).IsOutermost := fun outermost =>
        inside (List.append_eq_nil_iff.mp outermost.1).2
      rw [isUndivided_cons_iff, step_within outside unbroken]
      exact ⟨fun divides => enclosed divides.2, induction whole⟩

end Scanner

/-! ## Pieces of types -/

/-- Whatever stands between brackets is undivided. -/
theorem isUndivided_enclosed {bracket : Bracket} {opening text closing : Text}
    (balanced : Balanced text) (opens : Reads [] [bracket] opening)
    (opensWhole : Scanner.start.IsUndivided opening)
    (closesWhole : Scanner.IsUndivided ⟨[bracket], .code⟩ closing) :
    Scanner.start.IsUndivided (opening ++ text ++ closing) := by
  have opened : Scanner.start.scan opening = Scanner.start.within [bracket] := opens []
  have inside : (Scanner.start.within [bracket]).scan text = Scanner.start.within [bracket] :=
    balanced [bracket]
  have unbroken : (Scanner.start.scan text).mode ≠ .broken := by
    rw [balanced.isClosed]
    exact Mode.noConfusion
  rw [Scanner.isUndivided_append_iff, Scanner.isUndivided_append_iff, Scanner.scan_append, opened,
    inside]
  exact ⟨⟨opensWhole, Scanner.isUndivided_within (List.cons_ne_nil _ _) unbroken⟩, closesWhole⟩

theorem Reads.isUndivided_append {text rest : Text} (balanced : Balanced text)
    (first : Scanner.start.IsUndivided text) (second : Scanner.start.IsUndivided rest) :
    Scanner.start.IsUndivided (text ++ rest) := by
  rw [Scanner.isUndivided_append_iff, balanced.isClosed]
  exact ⟨first, second⟩

/-- Bars in a literal divide nothing. -/
theorem isUndivided_escape (c : CodePoint) :
    Scanner.IsUndivided ⟨[], .literal .single⟩ (Text.Literal.escape c) := by
  have inLiteral : ¬ Scanner.IsOutermost ⟨[], .literal .single⟩ := by decide
  unfold Text.Literal.escape
  split
  · decide
  · decide
  · decide
  · decide
  · exact Scanner.isUndivided_cons_iff.mpr ⟨fun divides => inLiteral divides.2, rfl⟩

private theorem isUndivided_body (text : Text) :
    Scanner.IsUndivided ⟨[], .literal .single⟩ (Text.Literal.body text) := by
  induction text with
  | nil => rfl
  | cons c text induction =>
      change Scanner.IsUndivided _ (Text.Literal.escape c ++ Text.Literal.body text)
      rw [Scanner.isUndivided_append_iff, scan_escape]
      exact ⟨isUndivided_escape c, induction⟩

theorem isUndivided_quoted (text : Text) : Scanner.start.IsUndivided (quoted text) := by
  have opened : Scanner.start.scan "'" = ⟨[], .literal .single⟩ := rfl
  have stays : Scanner.scan ⟨[], .literal .single⟩ (Text.Literal.body text) =
      ⟨[], .literal .single⟩ :=
    Scanner.scan_flatMap (scan_escape []) text
  change Scanner.start.IsUndivided
    (Text.ofString "'" ++ Text.Literal.body text ++ Text.ofString "'")
  rw [Scanner.isUndivided_append_iff, Scanner.isUndivided_append_iff, Scanner.scan_append, opened,
    stays]
  exact ⟨⟨by decide, isUndivided_body text⟩, by decide⟩

end ApiClient.Code
