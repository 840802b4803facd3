import ApiClient.Proofs.Code.Scanner
import ApiClient.Text.Line

/-! Indentation puts blanks at the starts of lines, and nothing that a scanner reads depends on them
there: after the end of a line it is never in the middle of a comment sign, an escape or a
placeholder sign. So indented code is read like the code itself, and its comments can be replaced
before or after the indentation. -/

namespace ApiClient.Text

/-! ## Indentation by code points

A line is known to be blank only at its end, so the blanks before it depend on what follows. -/

def startsBlank : Text → Bool
  | [] => true
  | c :: rest => c.isIn isBreak || (c.isIn isBlank && startsBlank rest)

def lead (level : Nat) (rest : Text) : Text :=
  if startsBlank rest then [] else indentation level

/-- Indent every line but the first. -/
def hang (level : Nat) : Text → Text
  | [] => []
  | .char '\r' :: .char '\n' :: rest => '\r' :: '\n' :: (lead level rest ++ hang level rest)
  | c :: rest =>
    if c.isIn isBreak then c :: (lead level rest ++ hang level rest) else c :: hang level rest

theorem isBlank_of_isBreak {c : CodePoint} (isBreak : c.isIn isBreak) : c.isIn isBlank := by
  cases c with
  | surrogate index => simp [CodePoint.isIn] at isBreak
  | char c =>
      simp only [CodePoint.isIn, Text.isBreak, isBlank, Bool.or_eq_true, Bool.and_eq_true,
        decide_eq_true_eq, beq_iff_eq] at isBreak ⊢
      omega

private theorem eq_nil_of_listOf {text : Text} (none : Line.listOf text = []) : text = [] := by
  induction text using Line.listOf.induct with
  | case1 => rfl
  | case2 rest _ => simp [Line.listOf] at none
  | case3 c rest single isBreak _ => simp [Line.listOf, isBreak] at none
  | case4 c rest single notBreak nothing _ => simp [Line.listOf, notBreak, nothing] at none
  | case5 c rest single notBreak line more found _ =>
      simp [Line.listOf, notBreak, found] at none

/-- The first line as a line, and as its code points tell. -/
def IsFirstLine (level : Nat) (text : Text) (line : Line) (more : List Line) : Prop :=
  startsBlank text = line.text.all (·.isIn isBlank) ∧
    hang level text = line.text ++ more.flatMap (Line.indented level)

private theorem indent_of_isFirstLine {level : Nat} {text : Text}
    (first : ∀ {line more}, Line.listOf text = line :: more → IsFirstLine level text line more) :
    indent level text = lead level text ++ hang level text := by
  cases lines : Line.listOf text with
  | nil =>
      cases eq_nil_of_listOf lines
      rfl
  | cons line more =>
      have ⟨blank, hung⟩ := first lines
      rw [indent, lines, List.flatMap_cons, hung, ← List.append_assoc, lead, blank]
      congr 1
      rw [Line.indented]
      split <;> simp

private theorem isFirstLine_of_listOf (level : Nat) {text : Text} {line : Line} {more : List Line}
    (lines : Line.listOf text = line :: more) : IsFirstLine level text line more := by
  induction text using Line.listOf.induct generalizing line more with
  | case1 => simp [Line.listOf] at lines
  | case2 rest induction =>
      rw [Line.listOf] at lines
      cases lines
      refine ⟨rfl, ?_⟩
      rw [hang, ← indent_of_isFirstLine induction]
      rfl
  | case3 c rest single isBreak induction =>
      rw [Line.listOf, if_pos isBreak] at lines
      · cases lines
        constructor
        · simp [startsBlank, Line.text, isBreak, isBlank_of_isBreak isBreak]
        · rw [hang, if_pos isBreak, ← indent_of_isFirstLine induction]
          · rfl
          · exact single
      · exact single
  | case4 c rest single notBreak nothing _ =>
      cases eq_nil_of_listOf nothing
      simp only [Line.listOf, notBreak] at lines
      cases lines
      constructor <;> simp [startsBlank, Line.text, notBreak, hang]
  | case5 c rest single notBreak first others found induction =>
      have ⟨blank, hung⟩ := induction found
      simp only [Line.listOf, notBreak, found] at lines
      cases lines
      constructor
      · simpa [startsBlank, Line.text, notBreak] using congrArg (c.isIn isBlank && ·) blank
      · simpa [hang, Line.text, notBreak] using hung

theorem indent_eq (level : Nat) (text : Text) :
    indent level text = lead level text ++ hang level text :=
  indent_of_isFirstLine (isFirstLine_of_listOf level)

theorem mem_indent (level : Nat) {c : CodePoint} {text : Text} (member : c ∈ text) :
    c ∈ indent level text := by
  have inHang : c ∈ hang level text := by
    induction text using hang.induct with
    | case1 => cases member
    | case2 rest induction =>
        rw [hang]
        simp only [List.mem_cons] at member
        simp only [List.mem_cons, List.mem_append]
        rcases member with found | found | found
        · exact .inl found
        · exact .inr (.inl found)
        · exact .inr (.inr (.inr (induction found)))
    | case3 d rest single breaks induction =>
        rw [hang, if_pos breaks]
        · rcases List.mem_cons.mp member with rfl | found
          · exact List.mem_cons_self
          · exact List.mem_cons_of_mem d (List.mem_append_right _ (induction found))
        · exact single
    | case4 d rest single notBreak induction =>
        rw [hang, if_neg notBreak]
        · rcases List.mem_cons.mp member with rfl | found
          · exact List.mem_cons_self
          · exact List.mem_cons_of_mem d (induction found)
        · exact single
  rw [indent_eq]
  exact List.mem_append_right _ inHang

end ApiClient.Text

namespace ApiClient.Code

open ApiClient.Text (isBlank isBreak indentation hang lead startsBlank)

/-! ## Reading blanks -/

theorem ne_of_isBlank {c : CodePoint} (blank : c.isIn isBlank) {sign : Char}
    (notBlank : isBlank sign = false) : c ≠ .char sign := by
  rintro rfl
  exact Bool.noConfusion (blank.symm.trans notBlank)

/-- The mode after a blank. -/
def Mode.afterBlank (c : CodePoint) : Mode → Mode
  | .code | .slash => .code
  | .comment | .star => .comment
  | .literal quote | .escape quote => if Scanner.endsLine c then .broken else .literal quote
  | .template | .dollar | .templateEscape => .template
  | .broken => .broken

/-- The modes between signs, which a blank within the line leaves as they are. -/
def Mode.isSettled : Mode → Bool
  | .code | .comment | .literal _ | .template | .broken => true
  | .slash | .star | .escape _ | .dollar | .templateEscape => false

theorem Mode.afterBlank_of_isSettled {mode : Mode} (settled : mode.isSettled) :
    mode.afterBlank ' ' = mode := by
  cases mode <;> first | rfl | exact Bool.noConfusion settled

theorem Mode.isSettled_afterBlank (c : CodePoint) (mode : Mode) :
    (mode.afterBlank c).isSettled := by
  by_cases ends : Scanner.endsLine c <;>
    cases mode <;> simp [isSettled, afterBlank, ends]

namespace Scanner

private theorem stepCode_of_isBlank {c : CodePoint} (blank : c.isIn isBlank)
    (enclosing : List Bracket) :
    stepCode enclosing c = ⟨enclosing, .code⟩ := by
  apply stepCode_of_not_mem
  have noBlank : ∀ sign ∈ signs, sign.isIn isBlank = false := by decide
  intro member
  exact Bool.noConfusion (blank.symm.trans (noBlank c member))

theorem step_of_isBlank {c : CodePoint} (blank : c.isIn isBlank) (scanner : Scanner) :
    scanner.step c = ⟨scanner.enclosing, scanner.mode.afterBlank c⟩ := by
  have star : c ≠ '*' := ne_of_isBlank blank rfl
  have slash : c ≠ '/' := ne_of_isBlank blank rfl
  have backslash : c ≠ '\\' := ne_of_isBlank blank rfl
  have backtick : c ≠ '\x60' := ne_of_isBlank blank rfl
  have dollar : c ≠ '$' := ne_of_isBlank blank rfl
  have curly : c ≠ '\x7b' := ne_of_isBlank blank rfl
  have quotes (quote : Quote) : c ≠ quote.mark := by
    cases quote <;> exact ne_of_isBlank blank rfl
  cases scanner with
  | mk enclosing mode =>
      cases mode <;>
        simp [step, Mode.afterBlank, stepCode_of_isBlank blank, literalMode, templateMode, star,
          slash, backslash, backtick, dollar, curly, quotes]

theorem scan_indentation {scanner : Scanner} (settled : scanner.mode.isSettled) (level : Nat) :
    scanner.scan (indentation level) = scanner := by
  have space : scanner.step ' ' = scanner := by
    rw [step_of_isBlank rfl, Mode.afterBlank_of_isSettled settled]
  induction level with
  | zero => rfl
  | succ level induction =>
      rw [indentation, List.replicate_succ, List.flatten_cons, scan_append]
      have two : scanner.scan Text.indentStep = scanner := by
        change (scanner.step ' ').step ' ' = scanner
        rw [space, space]
      rw [two]
      exact induction

private theorem scan_lead {scanner : Scanner} (settled : scanner.mode.isSettled) (level : Nat)
    (rest : Text) : scanner.scan (lead level rest) = scanner := by
  rw [lead]
  split
  · rfl
  · exact scan_indentation settled level

private theorem isSettled_step {c : CodePoint} (breaks : c.isIn isBreak) (scanner : Scanner) :
    (scanner.step c).mode.isSettled := by
  rw [step_of_isBlank (Text.isBlank_of_isBreak breaks)]
  exact Mode.isSettled_afterBlank c scanner.mode

/-! ## Reading indented code -/

private theorem scan_hang (level : Nat) (scanner : Scanner) (text : Text) :
    scanner.scan (hang level text) = scanner.scan text := by
  induction text using Text.hang.induct generalizing scanner with
  | case1 => rfl
  | case2 rest induction =>
      rw [hang]
      simp only [scan_cons, scan_append]
      rw [scan_lead (isSettled_step rfl _), induction]
  | case3 c rest single breaks induction =>
      rw [hang, if_pos breaks]
      · simp only [scan_cons, scan_append]
        rw [scan_lead (isSettled_step breaks _), induction]
      · exact single
  | case4 c rest single notBreak induction =>
      rw [hang, if_neg notBreak]
      · exact induction _
      · exact single

theorem scan_indent (level : Nat) {scanner : Scanner} (settled : scanner.mode.isSettled)
    (text : Text) : scanner.scan (Text.indent level text) = scanner.scan text := by
  rw [Text.indent_eq, scan_append, scan_lead settled, scan_hang]

end Scanner

end ApiClient.Code
