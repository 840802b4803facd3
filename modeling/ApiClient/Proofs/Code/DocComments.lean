import ApiClient.Proofs.Code.Literals
import ApiClient.Source.Comment

/-! Doc comments. Their text is taken apart into lines and loses blanks on the way, but no
terminator comes into being where there was none. So a doc comment is one comment to a scanner,
whatever its text, and any two of them are similar. -/

namespace ApiClient.Code

/-- A text that can stand inside of a comment. -/
def IsInner : Text → Prop
  | [] => True
  | c :: rest => (c = '*' → rest.head? ≠ some (.char '/')) ∧ IsInner rest

instance : (text : Text) → Decidable (IsInner text)
  | [] => .isTrue trivial
  | c :: rest =>
    have := instDecidableIsInner rest
    inferInstanceAs (Decidable ((c = '*' → rest.head? ≠ some (.char '/')) ∧ IsInner rest))

namespace IsInner

/-- At a seam, a terminator could only come into being of a star and a slash. -/
theorem append {text rest : Text} (first : IsInner text) (second : IsInner rest)
    (seam : text.getLast? = some (.char '*') → rest.head? ≠ some (.char '/')) :
    IsInner (text ++ rest) := by
  induction text with
  | nil => exact second
  | cons c text induction =>
      cases text with
      | nil =>
          refine ⟨fun star => seam ?_, second⟩
          rw [star]
          rfl
      | cons d text =>
          rw [List.getLast?_cons_cons] at seam
          exact ⟨first.1, induction first.2 seam⟩

private theorem of_prefix {text whole : Text} (isPrefix : text <+: whole) (inner : IsInner whole) :
    IsInner text := by
  obtain ⟨rest, rfl⟩ := isPrefix
  induction text with
  | nil => trivial
  | cons c text induction =>
      refine ⟨fun star => ?_, induction inner.2⟩
      cases text with
      | nil => simp
      | cons d text => exact inner.1 star

end IsInner

/-! ## The text of a comment -/

private theorem isInner_neutralized (text : Text) : IsInner (Comment.neutralized text) := by
  rw [Comment.neutralized]
  induction text using Text.replaceAll.induct (CodePoint.char '*') "/" with
  | case1 =>
      rw [Text.replaceAll]
      trivial
  | case2 text rest found induction =>
      rw [Text.replaceAll_of_some found]
      have escaped : IsInner "*\\/" := by decide
      exact escaped.append induction fun star => absurd star (by decide)
  | case3 text missing induction =>
      rw [Text.replaceAll_of_none missing]
      refine ⟨fun _ => ?_, induction⟩
      intro slash
      have begins : (Text.ofString "*\\/").head? = some (.char '*') := rfl
      rcases Text.head?_replaceAll begins text with same | ⟨_, star⟩
      · obtain ⟨rest, rfl⟩ := List.head?_eq_some_iff.mp (same.symm.trans slash)
        have found := Text.remainder?_append "/" rest
        exact Option.some_ne_none rest (found.symm.trans missing)
      · exact absurd (star.symm.trans slash) (by decide)
  | case4 c text notStar induction =>
      rw [Text.replaceAll_of_ne notStar]
      exact ⟨fun star => absurd star notStar, induction⟩

/-- The content of the first line begins the text, that of any line stands in it. -/
theorem isPrefix_of_listOf {text : Text} {line : Text.Line} {more : List Text.Line}
    (lines : Text.Line.listOf text = line :: more) : line.content <+: text := by
  induction text using Text.Line.listOf.induct generalizing line more with
  | case1 => cases lines
  | case2 rest induction =>
      rw [Text.Line.listOf] at lines
      cases lines
      exact List.nil_prefix
  | case3 c rest single breaks induction =>
      rw [Text.Line.listOf, if_pos breaks] at lines
      · cases lines
        exact List.nil_prefix
      · exact single
  | case4 c rest single notBreak nothing induction =>
      simp only [Text.Line.listOf, notBreak, nothing] at lines
      cases lines
      exact ⟨rest, rfl⟩
  | case5 c rest single notBreak first others found induction =>
      simp only [Text.Line.listOf, notBreak, found] at lines
      cases lines
      exact List.cons_prefix_cons.mpr ⟨rfl, induction found⟩

private theorem isInner_of_mem_listOf {text : Text} (inner : IsInner text) {line : Text.Line}
    (member : line ∈ Text.Line.listOf text) : IsInner line.content := by
  induction text using Text.Line.listOf.induct generalizing line with
  | case1 => cases member
  | case2 rest induction =>
      rw [Text.Line.listOf] at member
      rcases List.mem_cons.mp member with rfl | member
      · trivial
      · exact induction inner.2.2 member
  | case3 c rest single breaks induction =>
      rw [Text.Line.listOf, if_pos breaks] at member
      · rcases List.mem_cons.mp member with rfl | member
        · trivial
        · exact induction inner.2 member
      · exact single
  | case4 c rest single notBreak nothing induction =>
      have lines : Text.Line.listOf (c :: rest) = [⟨[c], []⟩] := by
        simp only [Text.Line.listOf, notBreak, nothing]
        rfl
      rw [lines, List.mem_singleton] at member
      subst member
      exact IsInner.of_prefix (isPrefix_of_listOf lines) inner
  | case5 c rest single notBreak first others found induction =>
      have lines : Text.Line.listOf (c :: rest) = ⟨c :: first.content, first.ending⟩ :: others := by
        simp only [Text.Line.listOf, notBreak, found]
        rfl
      rw [lines] at member
      rcases List.mem_cons.mp member with rfl | member
      · exact IsInner.of_prefix (isPrefix_of_listOf lines) inner
      · exact induction inner.2 (found ▸ List.mem_cons_of_mem first member)

theorem trimEnd_isPrefix {α : Type} (drops : α → Bool) (text : List α) :
    Text.trimEnd drops text <+: text := by
  induction text with
  | nil => exact List.nil_prefix
  | cons c rest induction =>
      rw [Text.trimEnd]
      split
      · split
        · exact List.nil_prefix
        · exact ⟨rest, rfl⟩
      · exact List.cons_prefix_cons.mpr ⟨rfl, induction⟩

private theorem isInner_contents {text : Text} (inner : IsInner text) {line : Text}
    (member : line ∈ Comment.contents text) : IsInner line := by
  unfold Comment.contents at member
  split at member
  · obtain rfl := List.mem_singleton.mp member
    trivial
  · obtain ⟨found, inText, rfl⟩ := List.mem_map.mp member
    exact isInner_of_mem_listOf inner inText

private theorem isInner_lead {text : Text} (inner : IsInner text) :
    IsInner (Comment.lead ++ text) := by
  have lead : IsInner Comment.lead := by decide
  exact lead.append inner fun star => absurd star (by decide)

private theorem isInner_bodyLine {text : Text} (inner : IsInner text) :
    IsInner (Comment.bodyLine text) :=
  IsInner.of_prefix (trimEnd_isPrefix _ _) (isInner_lead inner)

private theorem isInner_body {tag : Text} (plain : IsInner tag) (text : Text) {line : Text}
    (member : line ∈ Comment.body tag text) : IsInner line := by
  have contents : ∀ {content}, content ∈ Comment.contents (Comment.neutralized text) →
      IsInner content := isInner_contents (isInner_neutralized text)
  unfold Comment.body at member
  split at member
  · cases member
  · rename_i first rest found
    rw [found] at contents
    rcases List.mem_cons.mp member with rfl | member
    · have blank : IsInner (" " ++ first) :=
        IsInner.append (by decide) (contents List.mem_cons_self) fun star => absurd star (by decide)
      rw [List.append_assoc]
      exact isInner_bodyLine (plain.append blank fun _ => by
        simp [Text.ofString, Text.ofCharacters])
    · obtain ⟨content, inRest, rfl⟩ := List.mem_map.mp member
      exact isInner_bodyLine (contents (List.mem_cons_of_mem first inRest))

/-! ## The whole of a comment -/

/-- Lines that all have an end. -/
def ended (texts : List Text) : Text :=
  texts.flatMap fun text => text ++ "\n"

theorem lines_concat (texts : List Text) (last : Text) :
    lines (texts ++ [last]) = ended texts ++ last := by
  induction texts with
  | nil => rfl
  | cons text rest induction =>
      cases rest with
      | nil => simp [lines, joined, ended]
      | cons second rest =>
          rw [ended, List.flatMap_cons, List.append_assoc, ← ended, ← induction]
          rfl

theorem isInner_ended {texts : List Text} (inner : ∀ text ∈ texts, IsInner text) :
    IsInner (ended texts) := by
  induction texts with
  | nil => trivial
  | cons text rest induction =>
      have ⟨first, others⟩ := List.forall_mem_cons.mp inner
      have lineEnd : IsInner "\n" := by decide
      have rest : IsInner ("\n" ++ ended rest) :=
        lineEnd.append (induction others) fun star => absurd star (by decide)
      rw [ended, List.flatMap_cons, List.append_assoc]
      exact first.append rest fun _ => by simp [Text.ofString, Text.ofCharacters]

/-- What stands in a comment is skipped, and nothing is written for it. -/
theorem Scanner.scan_isInner {text : Text} (inner : IsInner text) {mode : Mode}
    (inside : mode.isComment) (seam : mode = .star → text.head? ≠ some (.char '/'))
    (enclosing : List Bracket) (mark rest : Text) :
    ∃ later : Mode, later.isComment ∧ scan ⟨enclosing, mode⟩ text = ⟨enclosing, later⟩ ∧
      replacingComments mark ⟨enclosing, mode⟩ (text ++ rest) =
        replacingComments mark ⟨enclosing, later⟩ rest := by
  induction text generalizing mode with
  | nil => exact ⟨mode, inside, rfl, rfl⟩
  | cons c text induction =>
      let next : Mode := if c = '*' then .star else .comment
      have stays : step ⟨enclosing, mode⟩ c = ⟨enclosing, next⟩ := by
        cases mode with
        | comment => rfl
        | star =>
            have notSlash : c ≠ '/' := fun slash => seam rfl (congrArg some slash)
            exact congrArg (Scanner.mk enclosing) (if_neg notSlash)
        | _ => exact Bool.noConfusion inside
      have silent : written mark mode c = [] := by
        cases mode with
        | comment | star => rfl
        | _ => exact Bool.noConfusion inside
      have nextInside : next.isComment := by
        dsimp only [next]
        split <;> rfl
      have nextSeam : next = .star → text.head? ≠ some (.char '/') := by
        intro isStar
        apply inner.1
        by_contra notStar
        exact Mode.noConfusion ((if_neg notStar).symm.trans isStar)
      obtain ⟨later, laterInside, scanned, replaced⟩ := induction inner.2 nextInside nextSeam
      refine ⟨later, laterInside, ?_, ?_⟩
      · rw [scan_cons, stays, scanned]
      · rw [List.cons_append, replacingComments_cons, silent, stays]
        exact replaced

/-- A text that is one comment over several lines and nothing else. -/
structure IsComment (text : Text) : Prop where
  balanced : Balanced text
  lineEnd : .char '\n' ∈ text
  replaced : ∀ outside,
    Scanner.replacingComments emptyComment ⟨outside, .code⟩ text = emptyComment

theorem IsComment.similar {left right : Text} (first : IsComment left) (second : IsComment right) :
    Similar left right where
  left_reads := first.balanced
  right_reads := second.balanced
  breaks := .inr ⟨first.lineEnd, second.lineEnd⟩
  same outside := (first.replaced outside).trans (second.replaced outside).symm

private theorem isComment_of_isInner {text : Text} (inner : IsInner text)
    (lineEnd : .char '\n' ∈ text) :
    IsComment ("/*" ++ text ++ "*/") := by
  have inside : Mode.comment.isComment := rfl
  have passed (outside : List Bracket) := Scanner.scan_isInner inner inside
    Mode.noConfusion outside emptyComment "*/"
  constructor
  · intro outside
    obtain ⟨later, laterInside, scanned, _⟩ := passed outside
    rw [Scanner.scan_append, Scanner.scan_append]
    change (Scanner.scan ⟨outside, .comment⟩ text).scan "*/" = _
    rw [scanned]
    cases later with
    | comment | star => rfl
    | _ => exact Bool.noConfusion laterInside
  · exact List.mem_append_left _ (List.mem_append_right _ lineEnd)
  · intro outside
    obtain ⟨later, laterInside, _, replaced⟩ := passed outside
    have rest : Scanner.replacingComments emptyComment ⟨outside, later⟩ "*/" = [] := by
      cases later with
      | comment | star => rfl
      | _ => exact Bool.noConfusion laterInside
    rw [List.append_assoc]
    change emptyComment ++
      Scanner.replacingComments emptyComment ⟨outside, .comment⟩ (text ++ "*/") = _
    rw [replaced, rest, List.append_nil]

/-- The lines of a doc comment between the first and the last one. -/
def middleLines (text : Option Text) (tag : Text) (further : List Text) : List Text :=
  (text.map (Comment.body tag)).getD [] ++ further.map (Comment.lead ++ ·)

theorem docComment_eq (text : Option Text) (tag : Text) (further : List Text) :
    docComment text tag further =
      lines (Comment.opening :: middleLines text tag further ++ [Comment.closing]) := by
  simp [docComment, middleLines]

theorem isInner_of_mem_middleLines {text : Option Text} {tag : Text} (plain : IsInner tag)
    {further : List Text} (others : ∀ line ∈ further, IsInner line) :
    ∀ line ∈ middleLines text tag further, IsInner line := by
  intro line member
  rcases List.mem_append.mp member with member | member
  · cases text with
    | none => cases member
    | some text => exact isInner_body plain text member
  · obtain ⟨line, inFurther, rfl⟩ := List.mem_map.mp member
    exact isInner_lead (others line inFurther)

theorem isComment_docComment (text : Option Text) {tag : Text} (plain : IsInner tag)
    {further : List Text} (others : ∀ line ∈ further, IsInner line) :
    IsComment (docComment text tag further) := by
  let middle := middleLines text tag further
  have body : IsInner ("*\n" ++ ended middle ++ " ") := by
    have each : ∀ line ∈ middle, IsInner line := isInner_of_mem_middleLines plain others
    have first : IsInner ("*\n" ++ ended middle) :=
      IsInner.append (by decide) (isInner_ended each) fun star => absurd star (by decide)
    exact first.append (by decide) fun _ => by decide
  have whole : docComment text tag further = "/*" ++ ("*\n" ++ ended middle ++ " ") ++ "*/" := by
    rw [docComment_eq, lines_concat]
    simp [middle, Comment.opening, Comment.closing, Text.ofString, Text.ofCharacters, ended]
  rw [whole]
  exact isComment_of_isInner body (by simp [Text.ofString, Text.ofCharacters])

end ApiClient.Code
