import ApiClient.Proofs.Code.Indentation

/-! Code with its comments replaced. A comment can give way to the shortest one before it is
deleted, and since the shortest one keeps its place in a line, this can be done before or after
the code is indented. So two codes that agree up to what their comments say still do so when
both are indented in the same way. -/

namespace ApiClient.Text

theorem hang_cons_of_isBreak {c : CodePoint} (level : Nat) (rest : Text) (breaks : c.isIn isBreak)
    (single : c = '\r' → rest.head? ≠ some (.char '\n')) :
    hang level (c :: rest) = c :: indent level rest := by
  rw [hang, if_pos breaks, indent_eq]
  intro more first second
  exact single first (congrArg List.head? second)

theorem hang_lineFeed (level : Nat) (rest : Text) :
    hang level (.char '\n' :: rest) = .char '\n' :: indent level rest :=
  hang_cons_of_isBreak level rest rfl fun isReturn => absurd isReturn (by decide)

theorem hang_cons_of_not_isBreak {c : CodePoint} (level : Nat) (rest : Text)
    (notBreak : c.isIn isBreak = false) : hang level (c :: rest) = c :: hang level rest := by
  rw [hang, if_neg (by simp [notBreak])]
  rintro more rfl
  exact Bool.noConfusion notBreak

theorem hang_append_of_not_isBreak (level : Nat) (text rest : Text)
    (notBreak : ∀ c ∈ text, c.isIn isBreak = false) :
    hang level (text ++ rest) = text ++ hang level rest := by
  induction text with
  | nil => rfl
  | cons c text induction =>
      rw [List.cons_append, hang_cons_of_not_isBreak level _ (notBreak c List.mem_cons_self),
        induction fun d member => notBreak d (List.mem_cons_of_mem c member)]
      rfl

end ApiClient.Text

namespace ApiClient.Code

/-- The shortest comment stands for any other. -/
def emptyComment : Text := "/**/"

def Mode.isComment : Mode → Bool
  | .comment | .star => true
  | _ => false

namespace Scanner

/-! ## What blanks become -/

theorem pending_of_isSettled {mode : Mode} (settled : mode.isSettled) : pending mode = [] := by
  cases mode <;> first | rfl | exact Bool.noConfusion settled

private theorem written_of_isBlank {c : CodePoint} (blank : c.isIn Text.isBlank) {mode : Mode}
    (outside : mode.isComment = false) (mark : Text) :
    written mark mode c = pending mode ++ [c] := by
  have slash : c ≠ '/' := ne_of_isBlank blank rfl
  have star : c ≠ '*' := ne_of_isBlank blank rfl
  cases mode <;> simp_all [written, pending, Mode.isComment]
  rfl

theorem isComment_afterBlank (c : CodePoint) (mode : Mode) :
    (mode.afterBlank c).isComment = mode.isComment := by
  by_cases ends : endsLine c <;> cases mode <;> simp [Mode.isComment, Mode.afterBlank, ends]

/-- A slash that has been read is always written, alone or as a part of the mark. -/
theorem replacingComments_slash (enclosing : List Bracket) (text : Text) :
    ∃ rest, replacingComments emptyComment ⟨enclosing, .slash⟩ text =
      CodePoint.char '/' :: rest := by
  cases text with
  | nil => exact ⟨[], rfl⟩
  | cons c text =>
      by_cases star : c = '*'
      · subst star
        exact ⟨_, rfl⟩
      · by_cases slash : c = '/'
        · subst slash
          exact ⟨_, rfl⟩
        · rw [replacingComments_cons, written, if_neg star, if_neg slash]
          exact ⟨_, rfl⟩

private theorem replacingComments_cons_of_isSettled {scanner : Scanner}
    (settled : scanner.mode.isSettled) (outside : scanner.mode.isComment = false) (c : CodePoint)
    (text : Text) :
    ∃ rest, scanner.replacingComments emptyComment (c :: text) = c :: rest := by
  obtain ⟨enclosing, mode⟩ := scanner
  cases mode with
  | code =>
      by_cases slash : c = '/'
      · subst slash
        exact replacingComments_slash enclosing text
      · rw [replacingComments_cons, written, if_neg slash]
        exact ⟨_, rfl⟩
  | literal _ | template | broken => exact ⟨_, rfl⟩
  | comment | star => exact Bool.noConfusion outside
  | slash | escape _ | dollar | templateEscape => exact Bool.noConfusion settled

theorem replacingComments_cons_of_isBlank {scanner : Scanner} {c : CodePoint}
    (outside : scanner.mode.isComment = false) (blank : c.isIn Text.isBlank) (mark text : Text) :
    scanner.replacingComments mark (c :: text) = pending scanner.mode ++
      c :: replacingComments mark ⟨scanner.enclosing, scanner.mode.afterBlank c⟩ text := by
  rw [replacingComments_cons, written_of_isBlank blank outside, step_of_isBlank blank]
  simp

private theorem startsBlank_replacingComments {scanner : Scanner} (settled : scanner.mode.isSettled)
    (outside : scanner.mode.isComment = false) (text : Text) :
    Text.startsBlank (scanner.replacingComments emptyComment text) = Text.startsBlank text := by
  induction text generalizing scanner with
  | nil => rw [replacingComments, pending_of_isSettled settled]
  | cons c text induction =>
      by_cases blank : c.isIn Text.isBlank
      · rw [replacingComments_cons_of_isBlank outside blank, pending_of_isSettled settled,
          List.nil_append, Text.startsBlank, Text.startsBlank,
            induction (Mode.isSettled_afterBlank c scanner.mode)
            ((isComment_afterBlank c _).trans outside)]
      · have notBreak : c.isIn Text.isBreak = false := by
          simpa using mt Text.isBlank_of_isBreak blank
        obtain ⟨rest, equal⟩ := replacingComments_cons_of_isSettled settled outside c text
        simp [equal, Text.startsBlank, blank, notBreak]

/-! ## Indentation -/

private theorem replacingComments_indentation {scanner : Scanner} (settled : scanner.mode.isSettled)
    (outside : scanner.mode.isComment = false) (mark : Text) (level : Nat) (more : Text) :
    scanner.replacingComments mark (Text.indentation level ++ more) =
      Text.indentation level ++ scanner.replacingComments mark more := by
  have same : (⟨scanner.enclosing, scanner.mode.afterBlank ' '⟩ : Scanner) = scanner := by
    rw [Mode.afterBlank_of_isSettled settled]
  have space (text : Text) : scanner.replacingComments mark (.char ' ' :: text) =
      .char ' ' :: scanner.replacingComments mark text := by
    rw [replacingComments_cons_of_isBlank outside rfl, pending_of_isSettled settled, same]
    rfl
  induction level with
  | zero => rfl
  | succ level induction =>
      rw [Text.indentation, List.replicate_succ, List.flatten_cons, List.append_assoc]
      change scanner.replacingComments mark (.char ' ' :: .char ' ' :: _) = _
      rw [space, space]
      exact congrArg (fun rest => CodePoint.char ' ' :: CodePoint.char ' ' :: rest) induction

theorem replacingComments_indent_of_hang {scanner : Scanner} (settled : scanner.mode.isSettled)
    (outside : scanner.mode.isComment = false) (level : Nat) {text : Text}
    (hung : scanner.replacingComments emptyComment (Text.hang level text) =
      Text.hang level (scanner.replacingComments emptyComment text)) :
    scanner.replacingComments emptyComment (Text.indent level text) =
      Text.indent level (scanner.replacingComments emptyComment text) := by
  rw [Text.indent_eq, Text.indent_eq, Text.lead, Text.lead,
    startsBlank_replacingComments settled outside]
  split
  · exact hung
  · rw [replacingComments_indentation settled outside, hung]

/-- In the middle of a comment no blank is written. -/
theorem replacingComments_indent_of_comment (enclosing : List Bracket) (mark : Text) (level : Nat)
    (text : Text) :
    replacingComments mark ⟨enclosing, .comment⟩ (Text.indent level text) =
      replacingComments mark ⟨enclosing, .comment⟩ (Text.hang level text) := by
  have indentation (rest : Text) :
      replacingComments mark ⟨enclosing, .comment⟩ (Text.indentation level ++ rest) =
        replacingComments mark ⟨enclosing, .comment⟩ rest := by
    induction level with
    | zero => rfl
    | succ level induction => exact induction
  rw [Text.indent_eq, Text.lead]
  split
  · rfl
  · exact indentation _

private theorem replacingComments_cons_of_comment {scanner : Scanner} {c : CodePoint}
    (inside : scanner.mode.isComment) (blank : c.isIn Text.isBlank) (mark text : Text) :
    scanner.replacingComments mark (c :: text) =
      replacingComments mark ⟨scanner.enclosing, .comment⟩ text := by
  rw [replacingComments_cons, step_of_isBlank blank]
  obtain ⟨enclosing, mode⟩ := scanner
  cases mode <;> first | rfl | exact Bool.noConfusion inside

private theorem not_isBreak_of_mem_written {mode : Mode} {c d : CodePoint}
    (notBreak : c.isIn Text.isBreak = false) (member : d ∈ written emptyComment mode c) :
    d.isIn Text.isBreak = false := by
  have mark : ∀ d ∈ emptyComment, d.isIn Text.isBreak = false := by decide
  have slash : CodePoint.isIn Text.isBreak '/' = false := rfl
  cases mode <;> simp only [written] at member <;> grind

/-- After a break outside of comments the first code point stays, so no break that was single
comes to stand before a line feed. -/
theorem head?_replacingComments {scanner : Scanner} (settled : scanner.mode.isSettled)
    (outside : scanner.mode.isComment = false) (text : Text) :
    (scanner.replacingComments emptyComment text).head? = text.head? := by
  cases text with
  | nil => rw [replacingComments, pending_of_isSettled settled]
  | cons c text =>
      obtain ⟨rest, equal⟩ := replacingComments_cons_of_isSettled settled outside c text
      rw [equal]
      rfl

private theorem not_isBreak_of_mem_pending {mode : Mode} {c : CodePoint}
    (member : c ∈ pending mode) :
    c.isIn Text.isBreak = false := by
  have slash : ∀ c ∈ Text.ofString "/", c.isIn Text.isBreak = false := by decide
  cases mode <;> first | exact slash c member | exact nomatch member

/-- Comments of a text can be replaced before or after its lines but the first are indented. -/
def Hangs (level : Nat) (text : Text) : Prop :=
  ∀ scanner : Scanner, scanner.replacingComments emptyComment (Text.hang level text) =
    Text.hang level (scanner.replacingComments emptyComment text)

private theorem hangs_lineEnd {level : Nat} {rest : Text} (next : Hangs level rest) :
    Hangs level (.char '\r' :: .char '\n' :: rest) := by
  intro scanner
  rw [Text.hang, ← Text.indent_eq]
  by_cases inside : scanner.mode.isComment
  · rw [replacingComments_cons_of_comment inside rfl, replacingComments_cons_of_comment rfl rfl,
      replacingComments_cons_of_comment inside rfl, replacingComments_cons_of_comment rfl rfl,
      replacingComments_indent_of_comment, next]
  · rw [Bool.not_eq_true] at inside
    have first := (isComment_afterBlank '\r' scanner.mode).trans inside
    have second := (isComment_afterBlank '\n' _).trans first
    have settled := Mode.isSettled_afterBlank '\r' scanner.mode
    rw [replacingComments_cons_of_isBlank inside rfl, replacingComments_cons_of_isBlank first rfl,
      replacingComments_cons_of_isBlank inside rfl, replacingComments_cons_of_isBlank first rfl,
      pending_of_isSettled settled,
      replacingComments_indent_of_hang (Mode.isSettled_afterBlank '\n' _) second level (next _),
      Text.hang_append_of_not_isBreak level _ _ fun c => not_isBreak_of_mem_pending]
    rw [List.nil_append, List.nil_append, Text.hang, ← Text.indent_eq]

private theorem hangs_cons_of_isBreak {level : Nat} {c : CodePoint} {rest : Text}
    (breaks : c.isIn Text.isBreak) (apart : c = '\r' → rest.head? ≠ some (.char '\n'))
    (next : Hangs level rest) : Hangs level (c :: rest) := by
  intro scanner
  have blank := Text.isBlank_of_isBreak breaks
  rw [Text.hang_cons_of_isBreak level rest breaks apart]
  by_cases inside : scanner.mode.isComment
  · rw [replacingComments_cons_of_comment inside blank,
      replacingComments_cons_of_comment inside blank, replacingComments_indent_of_comment, next]
  · rw [Bool.not_eq_true] at inside
    have outside := (isComment_afterBlank c scanner.mode).trans inside
    have settled := Mode.isSettled_afterBlank c scanner.mode
    rw [replacingComments_cons_of_isBlank inside blank,
      replacingComments_cons_of_isBlank inside blank,
      replacingComments_indent_of_hang settled outside level (next _),
      Text.hang_append_of_not_isBreak level _ _ fun c => not_isBreak_of_mem_pending,
      Text.hang_cons_of_isBreak level _ breaks]
    rw [head?_replacingComments settled outside]
    exact apart

private theorem hangs_cons_of_not_isBreak {level : Nat} {c : CodePoint} {rest : Text}
    (notBreak : c.isIn Text.isBreak = false) (next : Hangs level rest) :
    Hangs level (c :: rest) := by
  intro scanner
  rw [Text.hang_cons_of_not_isBreak level rest notBreak, replacingComments_cons,
    replacingComments_cons, next]
  exact (Text.hang_append_of_not_isBreak level _ _ fun d member =>
    not_isBreak_of_mem_written notBreak member).symm

private theorem hangs (level : Nat) (text : Text) : Hangs level text := by
  induction text using Text.hang.induct with
  | case1 =>
      intro scanner
      rw [Text.hang, replacingComments, pending]
      split <;> rfl
  | case2 rest induction => exact hangs_lineEnd induction
  | case3 c rest single breaks induction =>
      refine hangs_cons_of_isBreak breaks (fun first second => ?_) induction
      cases rest with
      | nil => cases second
      | cons d rest => exact single rest first (by rw [Option.some.inj second])
  | case4 c rest single notBreak induction =>
      exact hangs_cons_of_not_isBreak (Bool.not_eq_true _ ▸ notBreak) induction

theorem replacingComments_indent (level : Nat) {scanner : Scanner}
    (settled : scanner.mode.isSettled) (outside : scanner.mode.isComment = false) (text : Text) :
    scanner.replacingComments emptyComment (Text.indent level text) =
      Text.indent level (scanner.replacingComments emptyComment text) :=
  replacingComments_indent_of_hang settled outside level (hangs level text scanner)

/-! ## Deletion -/

/-- Where a scanner stands in the text that it has written: not in a comment, and before a
slash that is not written yet. -/
def afterWriting (scanner : Scanner) : Scanner :=
  match scanner.mode with
  | .slash | .comment | .star => ⟨scanner.enclosing, .code⟩
  | _ => scanner

private theorem afterWriting_closing (bracket : Bracket) (enclosing : List Bracket) :
    (closing bracket enclosing).afterWriting = closing bracket enclosing := by
  cases enclosing with
  | nil => rfl
  | cons other outside =>
      rw [closing]
      split <;> rfl

private theorem afterWriting_stepCode {c : CodePoint} (notSlash : c ≠ '/')
    (enclosing : List Bracket) :
    (stepCode enclosing c).afterWriting = stepCode enclosing c := by
  have curly : (closingCurly enclosing).afterWriting = closingCurly enclosing := by
    unfold closingCurly
    split
    · rfl
    · exact afterWriting_closing .curly _
  simp only [stepCode, if_neg notSlash]
  repeat' split
  all_goals first | rfl | exact curly | exact afterWriting_closing _ _

/-- Literals and templates hold no comments, and only code follows them. -/
theorem afterWriting_step {scanner : Scanner} (c : CodePoint) (apart : scanner.mode ≠ .code)
    (unchanged : scanner.afterWriting = scanner) :
    (scanner.step c).afterWriting = scanner.step c := by
  obtain ⟨enclosing, mode⟩ := scanner
  cases mode with
  | code => exact absurd rfl apart
  | slash | comment | star =>
      exact absurd (congrArg Scanner.mode unchanged) (by simp [afterWriting])
  | templateEscape | broken => rfl
  | literal quote =>
      simp only [step, literalMode]
      repeat' split
      all_goals rfl
  | escape quote =>
      simp only [step]
      split <;> rfl
  | template =>
      simp only [step, templateMode]
      repeat' split
      all_goals rfl
  | dollar =>
      simp only [step, templateMode]
      repeat' split
      all_goals rfl

private theorem afterWriting_step_of_comment (mode : Mode) (inside : mode.isComment)
    (enclosing : List Bracket) (c : CodePoint) :
    (step ⟨enclosing, mode⟩ c).afterWriting = ⟨enclosing, .code⟩ := by
  cases mode with
  | comment =>
      simp only [step]
      split <;> rfl
  | star =>
      simp only [step]
      repeat' split
      all_goals rfl
  | _ => exact Bool.noConfusion inside

/-- A code point that is no sign of a comment is written at once. -/
theorem replacingComments_of_written (mark : Text) (scanner : Scanner) {c : CodePoint}
    (text : Text) (same : written mark scanner.mode c = [c]) :
    scanner.replacingComments mark (c :: text) =
      c :: (scanner.step c).replacingComments mark text := by
  rw [replacingComments_cons, same]
  rfl

/-- Deleting the shortest comments of a text deletes the comments that they stand for. -/
def DeletesAll (scanner : Scanner) (text : Text) : Prop :=
  scanner.afterWriting.replacingComments [] (scanner.replacingComments emptyComment text) =
    scanner.replacingComments [] text

private theorem deletesAll_cons_of_code {enclosing : List Bracket} {c : CodePoint} {text : Text}
    (next : DeletesAll (step ⟨enclosing, .code⟩ c) text) :
    DeletesAll ⟨enclosing, .code⟩ (c :: text) := by
  by_cases slash : c = '/'
  · subst slash
    exact next
  · have same (mark : Text) : written mark .code c = [c] := if_neg slash
    change (stepCode enclosing c).afterWriting.replacingComments [] _ = _ at next
    rw [afterWriting_stepCode slash] at next
    rw [DeletesAll, replacingComments_of_written emptyComment _ text (same _),
      replacingComments_of_written [] _ text (same _), ← next]
    exact replacingComments_of_written [] ⟨enclosing, .code⟩ _ (same _)

/-- The slash before is written now, and this one is not known to begin a comment yet. -/
theorem deletesAll_cons_of_slashes {enclosing : List Bracket} {text : Text}
    (next : DeletesAll ⟨enclosing, .slash⟩ text) :
    DeletesAll ⟨enclosing, .slash⟩ (.char '/' :: text) := by
  obtain ⟨rest, equal⟩ := replacingComments_slash enclosing text
  change replacingComments [] ⟨enclosing, .code⟩
      (replacingComments emptyComment ⟨enclosing, .slash⟩ text) =
    replacingComments [] ⟨enclosing, .slash⟩ text at next
  rw [equal] at next
  change replacingComments [] ⟨enclosing, .code⟩
      (.char '/' :: replacingComments emptyComment ⟨enclosing, .slash⟩ text) =
    .char '/' :: replacingComments [] ⟨enclosing, .slash⟩ text
  rw [equal, ← next]
  rfl

private theorem deletesAll_cons_of_slash {enclosing : List Bracket} {c : CodePoint} {text : Text}
    (next : DeletesAll (step ⟨enclosing, .slash⟩ c) text) :
    DeletesAll ⟨enclosing, .slash⟩ (c :: text) := by
  by_cases star : c = '*'
  · subst star
    exact next
  by_cases slash : c = '/'
  · subst slash
    exact deletesAll_cons_of_slashes next
  · have both (mark : Text) : written mark .slash c = [.char '/', c] := by
      simp only [written, if_neg star, if_neg slash]
    have alone : step ⟨enclosing, .slash⟩ c = stepCode enclosing c := if_neg star
    rw [DeletesAll, alone, afterWriting_stepCode slash] at next
    rw [DeletesAll, replacingComments_cons, replacingComments_cons, both, both, alone, ← next]
    change written [] .slash c ++ replacingComments [] (step ⟨enclosing, .slash⟩ c) _ = _
    rw [both, alone]
    rfl

theorem deletesAll (scanner : Scanner) (text : Text) :
    DeletesAll scanner text := by
  induction text generalizing scanner with
  | nil =>
      obtain ⟨enclosing, mode⟩ := scanner
      cases mode <;> rfl
  | cons c text induction =>
      have next := induction (scanner.step c)
      obtain ⟨enclosing, mode⟩ := scanner
      cases mode with
      | code => exact deletesAll_cons_of_code next
      | slash => exact deletesAll_cons_of_slash next
      | comment | star =>
          rw [DeletesAll, afterWriting_step_of_comment _ rfl] at next
          exact next
      | literal _ | escape _ | template | dollar | templateEscape | broken =>
          rw [DeletesAll, afterWriting_step c (by simp) rfl] at next
          exact congrArg (c :: ·) next

end Scanner

end ApiClient.Code
