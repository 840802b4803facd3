import ApiClient.Proofs.Code.Enumerations
import ApiClient.Proofs.Code.Keys

/-! Lines and keys after indentation. Indentation is put before each line on its own, and
indentation that is indented is a deeper one. A name in code is read as it was before, up to
what goes into its literal. -/

namespace ApiClient.Text

/-! ## Deeper indentation -/

private theorem startsBlank_hang (level : Nat) (text : Text) :
    startsBlank (hang level text) = startsBlank text := by
  induction text using hang.induct with
  | case1 => rfl
  | case2 => rfl
  | case3 c rest single breaks =>
      rw [hang, if_pos breaks, startsBlank, startsBlank, breaks]
      · rfl
      · exact single
  | case4 c rest single notBreak induction =>
      rw [hang, if_neg notBreak, startsBlank, startsBlank, induction]
      exact single

theorem eq_space_of_mem_indentation {level : Nat} {c : CodePoint} (member : c ∈ indentation level) :
    c = ' ' := by
  have spaces : ∀ c ∈ indentStep, c = ' ' := by decide
  obtain ⟨step, among, inStep⟩ := List.mem_flatten.mp member
  rw [List.eq_of_mem_replicate among] at inStep
  exact spaces c inStep

private theorem not_isBreak_of_mem_lead {level : Nat} {rest : Text} {c : CodePoint}
    (member : c ∈ lead level rest) : c.isIn isBreak = false := by
  rw [lead] at member
  split at member
  · cases member
  · rw [eq_space_of_mem_indentation member]
    rfl

theorem head?_hang (level : Nat) (text : Text) : (hang level text).head? = text.head? := by
  rw [hang.eq_def]
  split
  · rfl
  · rfl
  · split <;> rfl

private theorem lead_append_lead (first second : Nat) (text : Text) :
    lead first text ++ lead second text = lead (first + second) text := by
  rw [lead, lead, lead]
  split
  · rfl
  · rw [indentation, indentation, indentation, ← List.replicate_append_replicate,
      List.flatten_append]

/-- A text can be indented again line by line. -/
theorem indent_indent_of_hang {first second : Nat} {text : Text}
    (deeper : hang first (hang second text) = hang (first + second) text) :
    indent first (indent second text) = indent (first + second) text := by
  have sameLead : lead first (lead second text ++ hang second text) = lead first text := by
    rw [lead.eq_def first, Literal.startsBlank_lead, startsBlank_hang, lead]
  rw [indent_eq second, indent_eq, sameLead,
    hang_append_of_not_isBreak first _ _ fun c => not_isBreak_of_mem_lead, deeper,
    ← List.append_assoc, lead_append_lead, indent_eq]

private theorem hang_hang (first second : Nat) (text : Text) :
    hang first (hang second text) = hang (first + second) text := by
  induction text using hang.induct with
  | case1 => rfl
  | case2 rest induction =>
      have deeper := indent_indent_of_hang induction
      rw [indent_eq second, indent_eq (first + second)] at deeper
      rw [hang, hang, hang, ← deeper, ← indent_eq first]
  | case3 c rest single breaks induction =>
      have once (level : Nat) : hang level (c :: rest) = c :: indent level rest := by
        rw [hang, if_pos breaks, indent_eq]
        exact single
      -- A line feed after a carriage return belongs to it, and indentation puts none there.
      have again : c = '\r' → (indent second rest).head? ≠ some (.char '\n') := by
        rintro rfl first
        rw [indent_eq] at first
        cases leads : lead second rest with
        | nil =>
            rw [leads, List.nil_append, head?_hang] at first
            obtain ⟨more, rfl⟩ := List.head?_eq_some_iff.mp first
            exact single more rfl rfl
        | cons d others =>
            rw [leads] at first
            have inLead : d ∈ lead second rest := leads ▸ List.mem_cons_self
            rw [Option.some.inj first] at inLead
            exact Bool.noConfusion (not_isBreak_of_mem_lead inLead)
      rw [once, once, hang_cons_of_isBreak first _ breaks again, indent_indent_of_hang induction]
  | case4 c rest single notBreak induction =>
      have sameLine := Bool.eq_false_iff.mpr notBreak
      rw [hang_cons_of_not_isBreak second _ sameLine, hang_cons_of_not_isBreak first _ sameLine,
        hang_cons_of_not_isBreak (first + second) _ sameLine, induction]

theorem indent_indent (first second : Nat) (text : Text) :
    indent first (indent second text) = indent (first + second) text :=
  indent_indent_of_hang (hang_hang first second text)

/-! ## Lines -/

private theorem startsBlank_append_lineFeed (text rest : Text) :
    startsBlank (text ++ .char '\n' :: rest) = startsBlank text := by
  induction text with
  | nil => rfl
  | cons c text induction => rw [List.cons_append, startsBlank, startsBlank, induction]

private theorem hang_append_lineFeed (level : Nat) (text rest : Text) :
    hang level (text ++ .char '\n' :: rest) =
      hang level text ++ .char '\n' :: indent level rest := by
  have sameLead (line : Text) : lead level (line ++ .char '\n' :: rest) = lead level line := by
    rw [lead, lead, startsBlank_append_lineFeed]
  induction text using hang.induct with
  | case1 => exact hang_lineFeed level rest
  | case2 text induction =>
      rw [List.cons_append, List.cons_append, hang, hang, induction, sameLead]
      simp
  | case3 c text single breaks induction =>
      by_cases joins : c = '\r' ∧ text = []
      · -- A carriage return at the end is one break with the line feed.
        obtain ⟨rfl, rfl⟩ := joins
        exact congrArg (CodePoint.char '\r' :: .char '\n' :: ·) (indent_eq level rest).symm
      · have stillSingle : ∀ more, c = '\r' →
            text ++ .char '\n' :: rest = .char '\n' :: more → False := by
          intro more isReturn begins
          cases text with
          | nil => exact joins ⟨isReturn, rfl⟩
          | cons d others =>
              obtain ⟨rfl, -⟩ := List.cons.inj begins
              exact single others isReturn rfl
        rw [List.cons_append, hang, if_pos breaks, sameLead, induction, hang, if_pos breaks]
        · simp
        · exact single
        · exact stillSingle
  | case4 c text single notBreak induction =>
      have sameLine := Bool.eq_false_iff.mpr notBreak
      rw [List.cons_append, hang_cons_of_not_isBreak level _ sameLine,
        hang_cons_of_not_isBreak level _ sameLine, induction]
      rfl

theorem indent_append_lineFeed (level : Nat) (text rest : Text) :
    indent level (text ++ .char '\n' :: rest) =
      indent level text ++ .char '\n' :: indent level rest := by
  rw [indent_eq level (text ++ _), hang_append_lineFeed, indent_eq level text, lead, lead,
    startsBlank_append_lineFeed, List.append_assoc]

end ApiClient.Text

namespace ApiClient

theorem indent_lines (level : Nat) (texts : List Text) :
    Text.indent level (lines texts) = lines (texts.map (Text.indent level)) := by
  induction texts with
  | nil => rfl
  | cons text rest induction =>
      cases rest with
      | nil => rfl
      | cons next more =>
          have unfolded (text next : Text) (more : List Text) :
              lines (text :: next :: more) = text ++ .char '\n' :: lines (next :: more) :=
            List.append_assoc _ _ _
          rw [unfolded, Text.indent_append_lineFeed, induction]
          exact (unfolded _ _ _).symm

end ApiClient

namespace ApiClient.Code

/-! ## Identifiers -/

section

variable {name : Text}

private theorem not_isBreak_of_isWholeIdentifier (whole : isWholeIdentifier name) :
    ∀ c ∈ name, c.isIn Text.isBreak = false := fun c member =>
  Enumeration.Reader.not_isBreak_of_isIdentifierPart (isIn_of_isWholeIdentifier whole c member)

theorem indented_of_isWholeIdentifier (whole : isWholeIdentifier name) (level : Nat) :
    Text.Literal.indented (level + 1) name = name := by
  apply Text.Literal.indented_eq_self_iff.mpr
  intro c member
  rw [Text.isOpenBreak, not_isBreak_of_isWholeIdentifier whole c member]
  rfl

theorem isWholeIdentifier_keyName (identifier : isIdentifier name) :
    isWholeIdentifier (keyName name) := by
  obtain ⟨whole, isWhole, rfl | rfl⟩ := isIdentifier_cases identifier
  · rwa [keyName_whole isWhole]
  · rwa [keyName_lineFeed isWhole]

/-- An identifier is read to its end, and a line feed at the end is skipped with the indentation. -/
theorem readIdentifier?_hang (identifier : isIdentifier name) (level : Nat) {rest tail : Text}
    (ends : EndsIdentifier (Text.hang level rest ++ tail)) :
    readIdentifier? (Text.hang level (name ++ rest) ++ tail) =
      some (keyName name, skipSpace (Text.hang level rest ++ tail)) := by
  obtain ⟨whole, isWhole, forms⟩ := isIdentifier_cases identifier
  have sameLine (text : Text) : Text.hang level (whole ++ text) = whole ++ Text.hang level text :=
    Text.hang_append_of_not_isBreak level whole text (not_isBreak_of_isWholeIdentifier isWhole)
  rcases forms with rfl | rfl
  · rw [sameLine, List.append_assoc, readIdentifier?_whole isWhole ends, keyName_whole isWhole]
  · have nextLine : Text.hang level (("\n" : Text) ++ rest) =
        .char '\n' :: (Text.lead level rest ++ Text.hang level rest) := by
      rw [← Text.indent_eq]
      exact Text.hang_lineFeed level rest
    rw [List.append_assoc, sameLine, nextLine, List.append_assoc, List.cons_append,
      readIdentifier?_whole isWhole (.cons rfl _), skipSpace_lineFeed, List.append_assoc,
      skipSpace_lead, keyName_lineFeed isWhole]

theorem readKey?_hang_of_isIdentifier (identifier : isIdentifier name)
    (level : Nat) (rest tail : Text) :
    readKey? (Text.hang level (name ++ rest) ++ tail) =
      readIdentifier? (Text.hang level (name ++ rest) ++ tail) := by
  obtain ⟨c, others, rfl, part⟩ := exists_of_isIdentifier identifier
  rw [List.cons_append, Text.hang_cons_of_not_isBreak level _
    (Enumeration.Reader.not_isBreak_of_isIdentifierPart part), List.cons_append, readKey?]
  intro _ quote
  exact ne_of_isIn part rfl (List.cons.inj quote).1

theorem readIndex?_hang (name rest : Text) (level : Nat) (tail : Text) :
    readIndex? (Text.hang level ("[" ++ quoted name ++ "]" ++ rest) ++ tail) =
      some (Text.Literal.indented level name, Text.hang level rest ++ tail) := by
  have opening : Text.hang level ("[" ++ (quoted name ++ ("]" ++ rest))) =
      "[" ++ Text.hang level (quoted name ++ ("]" ++ rest)) :=
    Text.hang_cons_of_not_isBreak level _ rfl
  have closing : Text.hang level ("]" ++ rest) = "]" ++ Text.hang level rest :=
    Text.hang_cons_of_not_isBreak level rest rfl
  rw [List.append_assoc, List.append_assoc, opening, Text.hang_quoted, closing, List.append_assoc,
    List.append_assoc, List.append_assoc]
  exact readIndex?_quoted _ _

/-- A key is read back but for the indentation that goes into its literal. -/
theorem readKey?_hang_propertyKey (name : Text) (level : Nat) {rest tail : Text}
    (ends : EndsIdentifier (Text.hang (level + 1) rest ++ tail)) :
    readKey? (Text.hang (level + 1) (propertyKey name ++ rest) ++ tail) =
      some (Text.Literal.indented (level + 1) (keyName name),
        skipSpace (Text.hang (level + 1) rest ++ tail)) := by
  rw [propertyKey]
  split
  · rename_i identifier
    rw [readKey?_hang_of_isIdentifier identifier, readIdentifier?_hang identifier _ ends,
      indented_of_isWholeIdentifier (isWholeIdentifier_keyName identifier)]
  · rename_i notIdentifier
    rw [Text.hang_quoted, List.append_assoc, readKey?_quoted, keyName, if_neg notIdentifier]

end

end ApiClient.Code
