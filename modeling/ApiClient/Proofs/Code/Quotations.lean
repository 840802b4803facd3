import ApiClient.Proofs.Code.Comments
import ApiClient.Text.Quoted
import Mathlib.Tactic.ByContra

/-! Single-quoted literals as code reads them back. A literal is read to its closing quote, and what
has been read is its text. Indentation goes into literals as well: where a text holds a line break
that its literal does not escape, a part of the literal stands on a line of its own. -/

namespace ApiClient.Code

/-! ## Reading -/

/-- A literal after its opening quote, with what has been read of its text. -/
inductive Quotation where
  | inside (read : Text)
  | escaped (read : Text)
  | complete (text : Text)
  | broken
  deriving DecidableEq, Repr

namespace Quotation

/-- What an escape stands for. -/
def unescaped? (c : CodePoint) : Option CodePoint :=
  if c = '\\' ∨ c = '\'' then some c
  else if c = 'n' then some '\n'
  else if c = 'r' then some '\r'
  else none

def step : Quotation → CodePoint → Quotation
  | .inside read, c =>
    if c = '\'' then .complete read
    else if c = '\\' then .escaped read
    else if Scanner.endsLine c then .broken
    else .inside (read ++ [c])
  | .escaped read, c =>
    match unescaped? c with
    | some d => .inside (read ++ [d])
    | none => .broken
  | .complete _, _ => .broken
  | .broken, _ => .broken

private theorem step_inside {c : CodePoint} (sameLine : ¬ Scanner.endsLine c) (notMark : c ≠ '\'')
    (notEscape : c ≠ '\\') (read : Text) : step (.inside read) c = .inside (read ++ [c]) := by
  rw [step, if_neg notMark, if_neg notEscape, if_neg sameLine]

theorem foldl_step_broken (text : Text) : text.foldl step .broken = .broken := by
  induction text with
  | nil => rfl
  | cons c text induction => exact induction

end Quotation

end ApiClient.Code

namespace ApiClient.Text

/-! ## Indented literals -/

/-- A line break that stands for itself in a literal. -/
def isOpenBreak (c : CodePoint) : Bool :=
  c.isIn isBreak && c != '\n' && c != '\r'

namespace Literal

/-- The text of a literal after indentation. After a break that is not escaped there is a new line,
which is indented unless nothing but blanks follows up to the next break. -/
def indented (level : Nat) : Text → Text
  | [] => []
  | c :: rest =>
    if isOpenBreak c then c :: (Text.lead level (body rest ++ "'") ++ indented level rest)
    else c :: indented level rest

example : indented 1 "a\u2028b" = "a\u2028  b" := by decide

@[simp] theorem body_cons (c : CodePoint) (rest : Text) :
    body (c :: rest) = escape c ++ body rest :=
  rfl

@[simp] theorem body_append (text rest : Text) : body (text ++ rest) = body text ++ body rest :=
  List.flatMap_append

theorem length_le_body (text : Text) : text.length ≤ (body text).length := by
  induction text with
  | nil => exact Nat.zero_le _
  | cons c rest induction =>
      have one : 1 ≤ (escape c).length := by
        unfold escape
        split <;> exact Nat.succ_le_succ (Nat.zero_le _)
      rw [body_cons, List.length_append, List.length_cons]
      omega

private theorem escape_of_isOpenBreak {c : CodePoint} (breaks : isOpenBreak c) :
    escape c = [c] := by
  unfold escape
  split
  all_goals first | rfl | exact Bool.noConfusion breaks

private theorem body_indentation (level : Nat) : body (indentation level) = indentation level := by
  induction level with
  | zero => rfl
  | succ level induction =>
      rw [indentation, List.replicate_succ, List.flatten_cons, body_append]
      exact congrArg (indentStep ++ ·) induction

theorem body_lead (level : Nat) (rest : Text) :
    body (Text.lead level rest) = Text.lead level rest := by
  rw [Text.lead]
  split
  · rfl
  · exact body_indentation level

/-- No escape holds a line break, so that a literal without open breaks stays on its line. -/
theorem not_isBreak_of_mem_escape {c d : CodePoint} (closed : isOpenBreak c = false)
    (member : d ∈ escape c) : d.isIn isBreak = false := by
  unfold escape at member
  split at member
  · revert d
    decide
  · revert d
    decide
  · revert d
    decide
  · revert d
    decide
  · rename_i backslash quote lineFeed carriageReturn
    obtain rfl := List.mem_singleton.mp member
    have notLineFeed : d ≠ '\n' := lineFeed
    have notReturn : d ≠ '\r' := carriageReturn
    simpa [isOpenBreak, notLineFeed, notReturn] using closed

/-! The closing quote keeps what stands before it from being a blank line. -/

private theorem lead_closing (level : Nat) (text rest : Text) :
    Text.lead level (text ++ "'" ++ rest) = Text.lead level (text ++ "'") := by
  have same : startsBlank (text ++ "'" ++ rest) = startsBlank (text ++ "'") := by
    induction text with
    | nil => rfl
    | cons c text induction =>
        rw [List.cons_append, List.cons_append, startsBlank, induction]
        rfl
  rw [Text.lead, Text.lead, same]

private theorem lead_body {text : Text} (closed : ∀ c ∈ text, isOpenBreak c = false) (level : Nat) :
    Text.lead level (body text ++ "'") = indentation level := by
  have notBreak : ∀ d ∈ body text, d.isIn isBreak = false := by
    intro d member
    obtain ⟨c, inText, member⟩ := List.mem_flatMap.mp member
    exact not_isBreak_of_mem_escape (closed c inText) member
  have notBlank : startsBlank (body text ++ "'") = false := by
    generalize body text = line at notBreak
    induction line with
    | nil => rfl
    | cons c line induction =>
        obtain ⟨first, others⟩ := List.forall_mem_cons.mp notBreak
        rw [List.cons_append, startsBlank, first, induction others, Bool.false_or, Bool.and_false]
  rw [Text.lead, notBlank]
  rfl

private theorem hang_body (level : Nat) (text rest : Text) :
    hang level (body text ++ "'" ++ rest) =
      body (indented level text) ++ hang level ("'" ++ rest) := by
  induction text with
  | nil => rfl
  | cons c text induction =>
      rw [body_cons, List.append_assoc, List.append_assoc, ← List.append_assoc (body text),
        indented]
      by_cases breaks : isOpenBreak c
      · have isBreak : c.isIn isBreak := by
          simp only [isOpenBreak, Bool.and_eq_true] at breaks
          exact breaks.1.1
        have single : c = '\r' → (body text ++ "'" ++ rest).head? ≠ some (.char '\n') := by
          rintro rfl
          exact Bool.noConfusion breaks
        rw [if_pos breaks, body_cons, escape_of_isOpenBreak breaks, body_append, body_lead,
          List.singleton_append, hang_cons_of_isBreak level _ isBreak single, indent_eq, induction,
          lead_closing]
        simp
      · rw [if_neg breaks, body_cons, hang_append_of_not_isBreak level _ _ fun d =>
          not_isBreak_of_mem_escape (Bool.eq_false_iff.mpr breaks), induction, List.append_assoc]

/-! ## What indentation changes -/

private theorem length_le_indented (level : Nat) (text : Text) :
    text.length ≤ (indented level text).length := by
  induction text with
  | nil => exact Nat.le_refl _
  | cons c text induction =>
      rw [indented]
      split
      · simp only [List.length_cons, List.length_append]
        omega
      · exact Nat.succ_le_succ induction

/-- The line after the last open break is not blank, so it is indented. -/
theorem length_lt_indented {text : Text} (opens : ∃ c ∈ text, isOpenBreak c) (level : Nat) :
    text.length < (indented (level + 1) text).length := by
  induction text with
  | nil => simp at opens
  | cons c text induction =>
      rw [indented]
      by_cases later : ∃ d ∈ text, isOpenBreak d
      · have longer := induction later
        split
        · simp only [List.length_cons, List.length_append]
          omega
        · exact Nat.succ_lt_succ longer
      · have closed : ∀ d ∈ text, isOpenBreak d = false := by simpa using later
        have here : isOpenBreak c := by
          obtain ⟨d, member, breaks⟩ := opens
          rcases List.mem_cons.mp member with rfl | member
          · exact breaks
          · exact absurd ⟨d, member, breaks⟩ later
        have atLeast := length_le_indented (level + 1) text
        have wide : 0 < (indentation (level + 1)).length := by
          simp [indentation, List.replicate_succ, indentStep, Text.ofString, Text.ofCharacters]
        rw [if_pos here, lead_body closed]
        simp only [List.length_cons, List.length_append]
        omega

theorem indented_eq_self_iff {level : Nat} {text : Text} :
    indented (level + 1) text = text ↔ ∀ c ∈ text, isOpenBreak c = false := by
  constructor
  · intro same
    by_contra opens
    have longer := length_lt_indented (by simpa using opens) level
    rw [same] at longer
    exact Nat.lt_irrefl _ longer
  · intro closed
    induction text with
    | nil => rfl
    | cons c text induction =>
        obtain ⟨first, others⟩ := List.forall_mem_cons.mp closed
        rw [indented, first, induction others]
        rfl

/-! A literal tells where its lines were blank, so it tells where indentation went into it. -/

private theorem startsBlank_append {text other : Text} (same : startsBlank text = startsBlank other)
    (before : Text) : startsBlank (before ++ text) = startsBlank (before ++ other) := by
  induction before with
  | nil => exact same
  | cons c before induction =>
      rw [List.cons_append, List.cons_append, startsBlank, startsBlank, induction]

theorem startsBlank_lead (level : Nat) (text rest : Text) :
    startsBlank (Text.lead level text ++ rest) = startsBlank rest := by
  have blanks : startsBlank (indentation level ++ rest) = startsBlank rest := by
    induction level with
    | zero => rfl
    | succ level induction => exact induction
  rw [Text.lead]
  split
  · rfl
  · exact blanks

private theorem startsBlank_indented (level : Nat) (text : Text) :
    startsBlank (body (indented level text) ++ "'") = startsBlank (body text ++ "'") := by
  induction text with
  | nil => rfl
  | cons c rest induction =>
      rw [indented, body_cons, List.append_assoc]
      split
      · rename_i breaks
        rw [body_cons, escape_of_isOpenBreak breaks, body_append, body_lead, List.append_assoc,
          List.append_assoc]
        exact startsBlank_append ((startsBlank_lead level _ _).trans induction) [c]
      · rw [body_cons, List.append_assoc]
        exact startsBlank_append induction (escape c)

theorem indented_injective (level : Nat) : Function.Injective (indented level) := by
  intro text
  induction text with
  | nil =>
      intro other same
      cases other with
      | nil => rfl
      | cons d rest =>
          rw [indented, indented] at same
          split at same <;> cases same
  | cons c text induction =>
      intro other same
      cases other with
      | nil =>
          rw [indented, indented] at same
          split at same <;> cases same
      | cons d rest =>
          have first : c = d := by
            rw [indented, indented] at same
            split at same <;> split at same <;> exact (List.cons.inj same).1
          subst first
          rw [indented, indented] at same
          split at same
          · have others := (List.cons.inj same).2
            -- What was put in here depends on what follows, and there both texts are alike.
            have alike : startsBlank (body text ++ "'") = startsBlank (body rest ++ "'") := by
              have blank := congrArg (fun line => startsBlank (body line ++ "'")) others
              simpa [body_append, body_lead, startsBlank_lead, startsBlank_indented] using blank
            rw [Text.lead, Text.lead, alike, List.append_cancel_left_eq] at others
            rw [induction others]
          · rw [induction (List.cons.inj same).2]

end Literal

theorem hang_quoted (level : Nat) (text rest : Text) :
    hang level (quoted text ++ rest) = quoted (Literal.indented level text) ++ hang level rest := by
  have closing : hang level ("'" ++ rest) = "'" ++ hang level rest :=
    hang_cons_of_not_isBreak level rest rfl
  change hang level (.char '\'' :: (Literal.body text ++ ("'" : Text) ++ rest)) =
    .char '\'' :: (Literal.body (Literal.indented level text) ++ ("'" : Text) ++ hang level rest)
  rw [hang_cons_of_not_isBreak level _ rfl, Literal.hang_body, closing, List.append_assoc]

end ApiClient.Text

namespace ApiClient.Code.Quotation

/-! ## Reading literals back -/

private theorem read_escape (read : Text) (c : CodePoint) :
    (Text.Literal.escape c).foldl step (.inside read) = .inside (read ++ [c]) := by
  unfold Text.Literal.escape
  split
  · rfl
  · rfl
  · rfl
  · rfl
  · rename_i backslash quote lineFeed carriageReturn
    exact step_inside (fun ends => ends.elim lineFeed carriageReturn) quote backslash read

theorem read_body (read text : Text) :
    (Text.Literal.body text).foldl step (.inside read) = .inside (read ++ text) := by
  induction text generalizing read with
  | nil => exact congrArg Quotation.inside (List.append_nil read).symm
  | cons c text induction =>
      rw [Text.Literal.body_cons, List.foldl_append, read_escape, induction, List.append_assoc]
      rfl

end ApiClient.Code.Quotation
