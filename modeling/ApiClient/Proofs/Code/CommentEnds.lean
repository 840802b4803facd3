import ApiClient.Proofs.Code.DocComments
import ApiClient.Proofs.Code.Outlines

/-! Where a doc comment ends. Its lines hold no terminator but the one after them, at any depth,
since indentation puts nothing but blanks between code points. So a scanner that reads the
comment is inside of it up to the last code point. -/

namespace ApiClient

/-- What ends a comment. -/
def Comment.terminator : Text := "*/"

/-- A text that a terminator ends, and that holds no other one. -/
structure ClosesAtEnd (text : Text) : Prop where
  closed : Comment.terminator <:+ text
  once : ∀ before after, text = before ++ (Comment.terminator ++ after) → after = []

/-- The lines of a comment at a depth, with the first and the last one around those between them. -/
def commentBlock (level : Nat) (middle : List Text) : Text :=
  lines ((Text.indentation level ++ Comment.opening) :: middle ++
    [Text.indentation level ++ Comment.closing])

/-- A comment over several lines, each with a star below that of the first line. No line holds a
break, so that they are apart by line feeds alone. -/
def IsLaidOut (level : Nat) (text : Text) : Prop :=
  ∃ middle, text = commentBlock level middle ∧
    ∀ line ∈ middle, Text.indentation level ++ (" *" : Text) <+: line ∧
      ∀ c ∈ line, c.isIn Text.isBreak = false

end ApiClient

namespace ApiClient.Code

/-! ## Terminators -/

theorem isInner_iff {text : Text} : IsInner text ↔ ¬Comment.terminator <:+: text := by
  induction text with
  | nil => exact iff_of_true trivial (by decide)
  | cons c rest induction =>
      have begins : Comment.terminator <+: c :: rest ↔ c = '*' ∧ rest.head? = some (.char '/') := by
        change [CodePoint.char '*', .char '/'] <+: c :: rest ↔ _
        cases rest with
        | nil => simp
        | cons d rest => simp [eq_comm]
      rw [List.infix_cons_iff, not_or, ← induction, begins, not_and, IsInner]

private theorem isInner_of_not_mem {text : Text} (noStar : .char '*' ∉ text) : IsInner text :=
  isInner_iff.mpr fun found => noStar (found.subset List.mem_cons_self)

private theorem closesAtEnd_of_isInner {text : Text} (inner : IsInner text) :
    ClosesAtEnd (text ++ Comment.terminator) := by
  refine ⟨List.suffix_append _ _, fun before after same => ?_⟩
  -- A star at the end makes no terminator, so that there is none before the last slash.
  have starred : IsInner (text ++ "*") := inner.append (by decide) fun _ => by decide
  cases after using List.reverseRecOn with
  | nil => rfl
  | append_singleton after last =>
      have apart : (text ++ ("*" : Text)) ++ [.char '/'] =
          (before ++ (Comment.terminator ++ after)) ++ [last] := by
        rw [List.append_assoc, List.append_assoc, List.append_assoc]
        exact same
      rw [(List.append_inj' apart rfl).1] at starred
      exact absurd ⟨before, after, List.append_assoc _ _ _⟩ (isInner_iff.mp starred)

/-! ## Indented lines -/

private theorem isInner_indentation_append (level : Nat) {text : Text} (inner : IsInner text) :
    IsInner (Text.indentation level ++ text) := by
  have noStar : .char '*' ∉ Text.indentation level := fun star =>
    absurd (Text.eq_space_of_mem_indentation star) (by decide)
  exact (isInner_of_not_mem noStar).append inner fun last =>
    absurd (List.mem_of_getLast? last) noStar

private theorem isInner_lead_append (level : Nat) (rest : Text) {text : Text}
    (inner : IsInner text) :
    IsInner (Text.lead level rest ++ text) := by
  rw [Text.lead]
  split
  · exact inner
  · exact isInner_indentation_append level inner

private theorem isInner_hang {text : Text} (inner : IsInner text) (level : Nat) :
    IsInner (Text.hang level text) := by
  induction text using Text.hang.induct with
  | case1 => trivial
  | case2 rest induction =>
      rw [Text.hang]
      exact ⟨fun star => absurd star (by decide), fun star => absurd star (by decide),
        isInner_lead_append level rest (induction inner.2.2)⟩
  | case3 c rest single breaks induction =>
      rw [Text.hang, if_pos breaks]
      · refine ⟨?_, isInner_lead_append level rest (induction inner.2)⟩
        rintro rfl
        exact Bool.noConfusion breaks
      · exact single
  | case4 c rest single notBreak induction =>
      rw [Text.hang, if_neg notBreak]
      · exact ⟨fun star => Text.head?_hang level rest ▸ inner.1 star, induction inner.2⟩
      · exact single

private theorem isInner_indent {text : Text} (inner : IsInner text) (level : Nat) :
    IsInner (Text.indent level text) := by
  rw [Text.indent_eq]
  exact isInner_lead_append level text (isInner_hang inner level)

/-- A line that is not blank is indented as a whole. -/
theorem indent_of_sameLine {line : Text} (sameLine : ∀ c ∈ line, c.isIn Text.isBreak = false)
    (notBlank : Text.startsBlank line = false) (level : Nat) :
    Text.indent level line = Text.indentation level ++ line := by
  have unchanged := Text.hang_append_of_not_isBreak level line [] sameLine
  rw [List.append_nil] at unchanged
  rw [Text.indent_eq, unchanged, Text.lead, notBlank]
  simp [Text.hang]

/-! ## Blocks -/

private theorem commentBlock_eq (level : Nat) (middle : List Text) :
    commentBlock level middle =
      Text.indentation level ++ ("/**\n" ++ (ended middle ++ (Text.indentation level ++ " "))) ++
        Comment.terminator := by
  rw [commentBlock, lines_concat]
  simp [ended, Comment.opening, Comment.closing, Comment.terminator, Text.ofString,
    Text.ofCharacters]

private theorem indent_docComment (level : Nat) (text : Option Text) (tag : Text)
    (further : List Text) :
    Text.indent level (docComment text tag further) =
      commentBlock level ((middleLines text tag further).map (Text.indent level)) := by
  have opening : Text.indent level Comment.opening = Text.indentation level ++ Comment.opening :=
    indent_of_sameLine (by decide) rfl level
  have closing : Text.indent level Comment.closing = Text.indentation level ++ Comment.closing :=
    indent_of_sameLine (by decide) rfl level
  rw [docComment_eq, indent_lines, List.map_append, List.map_cons, List.map_singleton, opening,
    closing]
  rfl

private theorem closesAtEnd_commentBlock {middle : List Text}
    (inner : ∀ line ∈ middle, IsInner line) (level : Nat) :
    ClosesAtEnd (commentBlock level middle) := by
  have last : IsInner (Text.indentation level ++ " ") :=
    isInner_indentation_append level (by decide)
  have below : IsInner (ended middle ++ (Text.indentation level ++ " ")) := by
    refine (isInner_ended inner).append last fun _ slash => ?_
    rcases List.mem_append.mp (List.mem_of_head? slash) with inBlanks | inSpace
    · exact absurd (Text.eq_space_of_mem_indentation inBlanks) (by decide)
    · exact absurd inSpace (by decide)
  have opening : IsInner "/**\n" := by decide
  rw [commentBlock_eq]
  exact closesAtEnd_of_isInner (isInner_indentation_append level
    (opening.append below fun star => absurd star (by decide)))

/-! ## Lines of a comment -/

private theorem not_isBreak_of_mem_listOf {text : Text} {line : Text.Line}
    (member : line ∈ Text.Line.listOf text) :
    ∀ c ∈ line.content, c.isIn Text.isBreak = false := by
  induction text using Text.Line.listOf.induct generalizing line with
  | case1 => cases member
  | case2 rest induction =>
      rw [Text.Line.listOf] at member
      rcases List.mem_cons.mp member with rfl | member
      · simp
      · exact induction member
  | case3 c rest single breaks induction =>
      rw [Text.Line.listOf, if_pos breaks] at member
      · rcases List.mem_cons.mp member with rfl | member
        · simp
        · exact induction member
      · exact single
  | case4 c rest single notBreak nothing induction =>
      simp only [Text.Line.listOf, notBreak, nothing] at member
      obtain rfl := List.mem_singleton.mp member
      simpa using notBreak
  | case5 c rest single notBreak first others found induction =>
      rw [found] at induction
      simp only [Text.Line.listOf, notBreak, found] at member
      rcases List.mem_cons.mp member with rfl | member
      · exact List.forall_mem_cons.mpr ⟨by simpa using notBreak, induction List.mem_cons_self⟩
      · exact induction (List.mem_cons_of_mem first member)

private theorem not_isBreak_of_mem_contents {text line : Text}
    (member : line ∈ Comment.contents text) :
    ∀ c ∈ line, c.isIn Text.isBreak = false := by
  unfold Comment.contents at member
  split at member
  · obtain rfl := List.mem_singleton.mp member
    simp
  · obtain ⟨found, inText, rfl⟩ := List.mem_map.mp member
    exact not_isBreak_of_mem_listOf inText

/-- What ends a text is kept with all that stands before a code point that is not dropped. -/
theorem prefix_trimEnd {α : Type} {drops : α → Bool} {last : α} (stays : drops last = false)
    (before rest : List α) : before ++ [last] <+: Text.trimEnd drops (before ++ last :: rest) := by
  induction before with
  | nil =>
      rw [List.nil_append, List.nil_append, Text.trimEnd, stays]
      split
      · exact List.prefix_rfl
      · exact ⟨_, rfl⟩
  | cons c before induction =>
      rw [List.cons_append, List.cons_append, Text.trimEnd]
      split
      · rename_i nothing
        rw [nothing] at induction
        exact absurd (List.prefix_nil.mp induction) (by simp)
      · exact List.cons_prefix_cons.mpr ⟨rfl, induction⟩

/-- A line between the first and the last one of a doc comment. -/
structure IsMiddleLine (line : Text) : Prop where
  starred : (" *" : Text) <+: line
  sameLine : ∀ c ∈ line, c.isIn Text.isBreak = false

private theorem isMiddleLine_bodyLine {text : Text}
    (sameLine : ∀ c ∈ text, c.isIn Text.isBreak = false) :
    IsMiddleLine (Comment.bodyLine text) := by
  have lead : ∀ c ∈ Comment.lead, c.isIn Text.isBreak = false := by decide
  have star : CodePoint.isIn Text.isBlank '*' = false := rfl
  constructor
  · exact prefix_trimEnd star [.char ' '] (.char ' ' :: text)
  · intro c member
    have inLine := (trimEnd_isPrefix _ _).subset member
    exact (List.mem_append.mp inLine).elim (lead c) (sameLine c)

private theorem isMiddleLine_lead {text : Text}
    (sameLine : ∀ c ∈ text, c.isIn Text.isBreak = false) :
    IsMiddleLine (Comment.lead ++ text) := by
  have lead : ∀ c ∈ Comment.lead, c.isIn Text.isBreak = false := by decide
  exact ⟨⟨.char ' ' :: text, rfl⟩, List.forall_mem_append.mpr ⟨lead, sameLine⟩⟩

/-- The breaks of the text are where its lines are, so none is left in a line. -/
theorem isMiddleLine_of_mem_body {tag : Text} (single : ∀ c ∈ tag, c.isIn Text.isBreak = false)
    (text : Text) :
    ∀ line ∈ Comment.body tag text, IsMiddleLine line := by
  intro line member
  have contents : ∀ {content}, content ∈ Comment.contents (Comment.neutralized text) →
      ∀ c ∈ content, c.isIn Text.isBreak = false := not_isBreak_of_mem_contents
  unfold Comment.body at member
  split at member
  · cases member
  · rename_i first rest found
    rw [found] at contents
    rcases List.mem_cons.mp member with rfl | member
    · have blank : ∀ c ∈ (" " : Text), c.isIn Text.isBreak = false := by decide
      have tagged := List.forall_mem_append.mpr ⟨single, blank⟩
      exact isMiddleLine_bodyLine (List.forall_mem_append.mpr ⟨tagged, contents List.mem_cons_self⟩)
    · obtain ⟨content, inRest, rfl⟩ := List.mem_map.mp member
      exact isMiddleLine_bodyLine (contents (List.mem_cons_of_mem first inRest))

private theorem isMiddleLine_of_mem_middleLines {text : Option Text} {tag : Text}
    (single : ∀ c ∈ tag, c.isIn Text.isBreak = false) {further : List Text}
    (others : ∀ line ∈ further, ∀ c ∈ line, c.isIn Text.isBreak = false) :
    ∀ line ∈ middleLines text tag further, IsMiddleLine line := by
  intro line member
  rcases List.mem_append.mp member with member | member
  · cases text with
    | none => cases member
    | some text => exact isMiddleLine_of_mem_body single text line member
  · obtain ⟨line, inFurther, rfl⟩ := List.mem_map.mp member
    exact isMiddleLine_lead (others line inFurther)

private theorem indent_of_isMiddleLine {line : Text} (middle : IsMiddleLine line) (level : Nat) :
    Text.indent level line = Text.indentation level ++ line := by
  obtain ⟨rest, rfl⟩ := middle.starred
  exact indent_of_sameLine middle.sameLine rfl level

private theorem isLaidOut_commentBlock {middle : List Text}
    (each : ∀ line ∈ middle, IsMiddleLine line) (level : Nat) :
    IsLaidOut level (commentBlock level (middle.map (Text.indent level))) := by
  have blanks : ∀ c ∈ Text.indentation level, c.isIn Text.isBreak = false := fun c member =>
    Text.eq_space_of_mem_indentation member ▸ rfl
  refine ⟨_, rfl, fun line member => ?_⟩
  obtain ⟨line, inMiddle, rfl⟩ := List.mem_map.mp member
  have isMiddle := each line inMiddle
  rw [indent_of_isMiddleLine isMiddle]
  exact ⟨(List.prefix_append_right_inj _).mpr isMiddle.starred,
    List.forall_mem_append.mpr ⟨blanks, isMiddle.sameLine⟩⟩

/-! ## Reading a comment -/

/-- A scanner has not left a comment before the only terminator. -/
theorem ClosesAtEnd.isComment_scan {before after : Text} {level : Nat}
    (closes : ClosesAtEnd (Text.indentation level ++ ("/*" ++ (before ++ after))))
    (unread : after ≠ []) (enclosing : List Bracket) :
    (Scanner.scan ⟨enclosing, .code⟩ (Text.indentation level ++
      ("/*" ++ before))).mode.isComment := by
  have inner : IsInner before := by
    apply isInner_iff.mpr
    rintro ⟨start, rest, rfl⟩
    have last := closes.once (Text.indentation level ++ ("/*" ++ start)) (rest ++ after) (by simp)
    exact unread (List.append_eq_nil_iff.mp last).2
  have opened : Mode.comment.isComment := rfl
  obtain ⟨later, inside, scanned, -⟩ :=
    Scanner.scan_isInner inner opened Mode.noConfusion enclosing [] []
  have opening : Scanner.scan ⟨enclosing, .code⟩ "/*" = ⟨enclosing, .comment⟩ := rfl
  rw [Scanner.scan_append, Scanner.scan_append, Scanner.scan_indentation rfl, opening, scanned]
  exact inside

/-- Where no tag holds a terminator, a comment holds one, at its end, whatever its text is and
however often it is indented. Where no tag holds a break, each line below the first has a star,
and all breaks of the text have become line feeds. A scanner that has not read the last code
point is still inside of the comment. -/
theorem docComment_closes (text : Option Text) (tag : Text) (further : List Text)
    (levels : List Nat) (plain : ∀ line ∈ tag :: further, ¬Comment.terminator <:+: line) :
    let comment := Text.indentedBy levels (docComment text tag further)
    let blanks := Text.indentation levels.sum
    blanks ++ Comment.opening <+: comment ∧ ClosesAtEnd comment ∧
      ((∀ line ∈ tag :: further, ∀ c ∈ line, c.isIn Text.isBreak = false) →
        IsLaidOut levels.sum comment) ∧
      ∀ before after, comment = blanks ++ ("/*" ++ (before ++ after)) → after ≠ [] → ∀ enclosing,
        (Scanner.scan ⟨enclosing, .code⟩ (blanks ++ ("/*" ++ before))).mode.isComment := by
  intro comment blanks
  obtain ⟨tagInner, othersInner⟩ := List.forall_mem_cons.mp fun line member =>
    isInner_iff.mpr (plain line member)
  have layout : comment = commentBlock levels.sum
      ((middleLines text tag further).map (Text.indent levels.sum)) := by
    rw [← indent_docComment, ← Text.indentedBy_eq]
  have closes : ClosesAtEnd comment := by
    rw [layout]
    apply closesAtEnd_commentBlock
    intro line member
    obtain ⟨line, inMiddle, rfl⟩ := List.mem_map.mp member
    exact isInner_indent (isInner_of_mem_middleLines tagInner othersInner line inMiddle) levels.sum
  refine ⟨?_, closes, fun single => ?_, fun before after parts unread enclosing => ?_⟩
  · rw [layout, commentBlock, List.cons_append, lines, joined_cons]
    exact List.prefix_append _ _
  · obtain ⟨tagSingle, othersSingle⟩ := List.forall_mem_cons.mp single
    rw [layout]
    exact isLaidOut_commentBlock (isMiddleLine_of_mem_middleLines tagSingle othersSingle) levels.sum
  · exact ClosesAtEnd.isComment_scan (parts ▸ closes) unread enclosing

theorem docComment_closes_deprecated :
    let tags : List Text := [descriptionTag, "@deprecated"]
    let comment := Text.indentedBy [1, 2]
      (docComment (some "Ends */ early\u2028*\n/ too") descriptionTag ["@deprecated"])
    (∀ line ∈ tags, ¬Comment.terminator <:+: line) ∧
      (∀ line ∈ tags, ∀ c ∈ line, c.isIn Text.isBreak = false) ∧
      ClosesAtEnd comment ∧ IsLaidOut 3 comment := by
  intro tags comment
  have inner : ∀ line ∈ tags, IsInner line := by decide
  have plain : ∀ line ∈ tags, ¬Comment.terminator <:+: line := fun line member =>
    isInner_iff.mp (inner line member)
  have single : ∀ line ∈ tags, ∀ c ∈ line, c.isIn Text.isBreak = false := by decide
  obtain ⟨-, closes, laidOut, -⟩ :=
    docComment_closes (some "Ends */ early\u2028*\n/ too") descriptionTag
    ["@deprecated"] [1, 2] plain
  exact ⟨plain, single, closes, laidOut single⟩

end ApiClient.Code
