import ApiClient.Proofs.Code.Quotations
import ApiClient.Proofs.Code.Templates
import Mathlib.Data.List.TakeWhile

/-! What addresses evaluate to. The placeholders of a path give way to accesses one
argument after the other, in a text whose signs have been escaped before. What comes
out evaluates to the path in which every placeholder has given way to its value at
once, and all else is as it was. -/

namespace ApiClient

/-! ## Paths with values -/

/-- An identifier, without the line feed that may end one. -/
def isWholeIdentifier : Text → Bool
  | [] => false
  | c :: rest => c.isIn isIdentifierStart && rest.all (·.isIn isIdentifierPart)

/-- The name of a placeholder after its opening, if it is one of some names, and what follows. -/
def slot? (names : List Text) (text : Text) : Option (Text × Text) :=
  match Text.cut (· == CodePoint.char '\x7d') text with
  | (name, _ :: rest) => if names.contains name then some (name, rest) else none
  | (_, []) => none

section

variable {names : List Text} {name rest text : Text}

theorem slot?_eq_some_iff :
    slot? names text = some (name, rest) ↔
      name ∈ names ∧ CodePoint.char '\x7d' ∉ name ∧ text = name ++ .char '\x7d' :: rest := by
  constructor
  · intro found
    have whole := List.takeWhile_append_dropWhile (p := (! · == CodePoint.char '\x7d')) (l := text)
    unfold slot? Text.cut at found
    split at found
    · rename_i before closing after cut
      obtain ⟨rfl, parts⟩ := Prod.mk.inj cut
      split at found
      · rename_i among
        obtain ⟨rfl, rfl⟩ := Prod.mk.inj (Option.some.inj found)
        have ends : closing = .char '\x7d' := by
          have stops := List.head?_dropWhile_not (! · == CodePoint.char '\x7d') text
          rw [parts] at stops
          simpa using stops
        refine ⟨List.contains_iff_mem.mp among, fun inside => ?_, ?_⟩
        · have passes := List.mem_takeWhile_imp inside
          simp at passes
        · rw [parts, ends] at whole
          exact whole.symm
      · cases found
    · cases found
  · rintro ⟨among, apart, rfl⟩
    have passes : ∀ c ∈ name, (! c == CodePoint.char '\x7d') = true := by
      intro c member
      have ne : c ≠ .char '\x7d' := fun equal => apart (equal ▸ member)
      simpa using ne
    unfold slot? Text.cut
    rw [List.takeWhile_append_of_pos passes, List.dropWhile_append_of_pos passes]
    simp [among]

private theorem slot?_append_of_some (found : slot? names text = some (name, rest))
    (more : List Text) :
    slot? (names ++ more) text = some (name, rest) := by
  obtain ⟨among, apart, whole⟩ := slot?_eq_some_iff.mp found
  exact slot?_eq_some_iff.mpr ⟨List.mem_append_left more among, apart, whole⟩

/-- A placeholder found only with one more name is for that name. -/
theorem eq_of_slot?_append {last : Text} (missing : slot? names text = none)
    (found : slot? (names ++ [last]) text = some (name, rest)) :
    name = last ∧ text = last ++ .char '}' :: rest := by
  obtain ⟨among, apart, whole⟩ := slot?_eq_some_iff.mp found
  rcases List.mem_append.mp among with earlier | own
  · exact absurd (slot?_eq_some_iff.mpr ⟨earlier, apart, whole⟩) (ne_of_eq_of_ne missing nofun)
  · obtain rfl := List.mem_singleton.mp own
    exact ⟨rfl, whole⟩

private theorem slot?_length (found : slot? names text = some (name, rest)) :
    rest.length < text.length := by
  obtain ⟨_, _, rfl⟩ := slot?_eq_some_iff.mp found
  simp only [List.length_append, List.length_cons]
  omega

end

/-- A path in which the placeholders for some names have given way to values. -/
def filled (names : List Text) (value : Text → Text) : Text → Text
  | [] => []
  | c :: text =>
    if c = '\x7b' then
      match _found : slot? names text with
      | some (name, rest) => value name ++ filled names value rest
      | none => c :: filled names value text
    else c :: filled names value text
termination_by text => text.length
decreasing_by
  · have := slot?_length _found
    simp only [List.length_cons]
    omega
  all_goals simp

section

variable {names : List Text} {value : Text → Text} {name rest text : Text} {c : CodePoint}

theorem filled_of_ne (plain : c ≠ '\x7b') :
    filled names value (c :: text) = c :: filled names value text := by
  rw [filled, if_neg plain]

theorem filled_of_none (missing : slot? names text = none) :
    filled names value (.char '\x7b' :: text) = .char '\x7b' :: filled names value text := by
  rw [filled, if_pos rfl]
  split
  · simp_all
  · rfl

theorem filled_of_some (found : slot? names text = some (name, rest)) :
    filled names value (.char '\x7b' :: text) = value name ++ filled names value rest := by
  rw [filled, if_pos rfl]
  split
  · simp_all
  · simp_all

end

private theorem slot?_nil (text : Text) : slot? [] text = none := by
  cases found : slot? [] text with
  | none => rfl
  | some slot => exact absurd (slot?_eq_some_iff.mp found).1 List.not_mem_nil

/-- Where there are no names a path is as it was. -/
theorem filled_nil (value : Text → Text) (path : Text) : filled [] value path = path := by
  induction path with
  | nil => rw [filled]
  | cons c text induction =>
      by_cases curly : c = '\x7b'
      · rw [curly, filled_of_none (slot?_nil text), induction]
      · rw [filled_of_ne curly, induction]

/-! ## Evaluation -/

namespace Code

/-- A template after its opening mark, with what has been read of its text. A dollar sign may open a
placeholder, whose content is read up to the closing bracket. -/
inductive Evaluation where
  | inside (read : Text)
  | escaped (read : Text)
  | dollar (read : Text)
  | placeholder (read content : Text)
  | complete (text : Text)
  | broken
  deriving DecidableEq, Repr

namespace Evaluation

/-- The content of a placeholder is the access to a value of the path by its name. -/
def accessed? (value : Text → Text) (content : Text) : Option Text :=
  match Text.remainder? "path." content with
  | some name => if isWholeIdentifier name then some (value name) else none
  | none => none

def stepInside (read : Text) (c : CodePoint) : Evaluation :=
  if c = '\x60' then .complete read
  else if c = '\\' then .escaped read
  else if c = '$' then .dollar read
  else .inside (read ++ [c])

def step (value : Text → Text) : Evaluation → CodePoint → Evaluation
  | .inside read, c => stepInside read c
  | .escaped read, c => .inside (read ++ [c])
  | .dollar read, c =>
    if c = '\x7b' then .placeholder read [] else stepInside (read ++ [.char '$']) c
  | .placeholder read content, c =>
    if c = '\x7d' then
      match accessed? value content with
      | some text => .inside (read ++ text)
      | none => .broken
    else .placeholder read (content ++ [c])
  | .complete _, _ => .broken
  | .broken, _ => .broken

end Evaluation

/-- The text that an expression for an address evaluates to: a quoted literal, or a template with
values for the names in it. -/
def evaluated? (value : Text → Text) : Text → Option Text
  | .char '\'' :: body =>
    match body.foldl Quotation.step (.inside []) with
    | .complete text => some text
    | _ => none
  | .char '\x60' :: body =>
    match body.foldl (Evaluation.step value) (.inside []) with
    | .complete text => some text
    | _ => none
  | _ => none

example : evaluated? (fun name => name ++ name) "\x60/\\$$\x7bpath.a\x7d\\\\\x60" =
    some "/$aa\\" := by
  decide

/-! ## Templates for paths

In the template for a path, the placeholders for some names are accesses and all else stands for
itself. -/

/-- A character of a path in a template, where another text follows it. -/
def escapedBefore (c : CodePoint) (rest : Text) : Text :=
  if c = '\\' ∨ c = '\x60' ∨ c = '$' ∧ rest.head? = some (.char '\x7b') then ['\\', c] else [c]

/-- The inside of the template for a path. -/
def templateOf (names : List Text) : Text → Text
  | [] => []
  | c :: text =>
    if c = '\x7b' then
      match _found : slot? names text with
      | some (name, rest) =>
        "$\x7b" ++ memberAccess "path" name ++ "\x7d" ++ templateOf names rest
      | none => c :: templateOf names text
    else escapedBefore c text ++ templateOf names text
termination_by text => text.length
decreasing_by
  · have := slot?_length _found
    simp only [List.length_cons]
    omega
  all_goals simp

section

variable {names : List Text} {name rest text : Text} {c : CodePoint}

theorem templateOf_of_ne (plain : c ≠ '\x7b') :
    templateOf names (c :: text) = escapedBefore c text ++ templateOf names text := by
  rw [templateOf, if_neg plain]

theorem templateOf_of_none (missing : slot? names text = none) :
    templateOf names (.char '\x7b' :: text) = .char '\x7b' :: templateOf names text := by
  rw [templateOf, if_pos rfl]
  split
  · simp_all
  · rfl

theorem templateOf_of_some (found : slot? names text = some (name, rest)) :
    templateOf names (.char '\x7b' :: text) =
      "$\x7b" ++ memberAccess "path" name ++ "\x7d" ++ templateOf names rest := by
  rw [templateOf, if_pos rfl]
  split
  · simp_all
  · simp_all

end

/-- A path in which every sign is escaped, apart from the dollar. -/
def marked (path : Text) : Text :=
  path.flatMap fun c : CodePoint => if c = '\\' ∨ c = '\x60' then ['\\', c] else [c]

private theorem marked_of_sign {c : CodePoint} (sign : c = '\\' ∨ c = '\x60') (text : Text) :
    marked (c :: text) = .char '\\' :: c :: marked text := by
  rw [marked, List.flatMap_cons, if_pos sign]
  rfl

private theorem marked_of_not_sign {c : CodePoint} (plain : ¬(c = '\\' ∨ c = '\x60'))
    (text : Text) :
    marked (c :: text) = c :: marked text := by
  rw [marked, List.flatMap_cons, if_neg plain]
  rfl

private theorem head?_marked (text : Text) :
    (marked text).head? = some (.char '\x7b') ↔ text.head? = some (.char '\x7b') := by
  cases text with
  | nil => rfl
  | cons c text =>
      by_cases sign : c = '\\' ∨ c = '\x60'
      · rw [marked_of_sign sign]
        rcases sign with rfl | rfl <;> simp
      · rw [marked_of_not_sign sign]
        rfl

/-- Signs are escaped alike, whether dollars are looked for afterwards or at once. -/
theorem templateText_eq (path : Text) : Endpoint.templateText path = templateOf [] path := by
  change Text.replaceAll (.char '$') "\x7b" "\\$\x7b" (marked path) = templateOf [] path
  induction path with
  | nil => rw [templateOf, marked, List.flatMap_nil, Text.replaceAll]
  | cons c text induction =>
      by_cases sign : c = '\\' ∨ c = '\x60'
      · have notDollar : c ≠ '$' := by rcases sign with rfl | rfl <;> decide
        have notCurly : c ≠ '\x7b' := by rcases sign with rfl | rfl <;> decide
        rw [marked_of_sign sign, templateOf_of_ne notCurly, escapedBefore,
          if_pos (sign.imp_right .inl), Text.replaceAll_of_ne (by decide),
          Text.replaceAll_of_ne notDollar, induction]
        rfl
      · rw [marked_of_not_sign sign]
        by_cases dollar : c = '$'
        · subst dollar
          rw [templateOf_of_ne (by decide)]
          cases found : Text.remainder? "\x7b" (marked text) with
          | some more =>
              have opens := Text.remainder?_eq_some found
              have curly : text.head? = some (.char '\x7b') :=
                (head?_marked text).mp (opens ▸ rfl)
              rw [opens, Text.replaceAll_append_of_not_mem (by decide)] at induction
              rw [Text.replaceAll_of_some found, escapedBefore, if_pos (.inr (.inr ⟨rfl, curly⟩)),
                ← induction]
              rfl
          | none =>
              have closed : text.head? ≠ some (.char '\x7b') := by
                intro curly
                obtain ⟨more, opens⟩ := List.head?_eq_some_iff.mp ((head?_marked text).mpr curly)
                rw [opens] at found
                exact Option.some_ne_none more
                  ((Text.remainder?_append "\x7b" more).symm.trans found)
              rw [Text.replaceAll_of_none found, induction, escapedBefore,
                if_neg (by simp [closed])]
              rfl
        · rw [Text.replaceAll_of_ne dollar, induction]
          by_cases curly : c = '\x7b'
          · rw [curly, templateOf_of_none (slot?_nil text)]
          · rw [templateOf_of_ne curly, escapedBefore, if_neg (by tauto)]
            rfl

/-! ## Names in templates

A name stands in a template as it stands in the path, together with the bracket that closes it. -/

section

variable {names : List Text} {name rest text : Text}

theorem isIn_of_isWholeIdentifier (whole : isWholeIdentifier name) :
    ∀ c ∈ name, c.isIn isIdentifierPart := by
  cases name with
  | nil => exact List.forall_mem_nil _
  | cons c rest =>
      obtain ⟨start, others⟩ := Bool.and_eq_true_iff.mp whole
      refine List.forall_mem_cons.mpr ⟨?_, List.all_eq_true.mp others⟩
      cases c with
      | surrogate index => exact Bool.noConfusion start
      | char c => exact Bool.or_eq_true_iff.mpr (.inl start)

private theorem continues_of_isIn (parts : ∀ c ∈ name, c.isIn isIdentifierPart) :
    Identifier.continues name := by
  induction name with
  | nil => rfl
  | cons c rest induction =>
      obtain ⟨part, others⟩ := List.forall_mem_cons.mp parts
      rw [Identifier.continues]
      · exact Bool.and_eq_true_iff.mpr ⟨part, induction others⟩
      · rintro rfl _
        exact Bool.noConfusion part

theorem isIdentifier_of_isWholeIdentifier (whole : isWholeIdentifier name) : isIdentifier name := by
  cases name with
  | nil => exact whole
  | cons c rest =>
      obtain ⟨start, others⟩ := Bool.and_eq_true_iff.mp whole
      exact Bool.and_eq_true_iff.mpr ⟨start, continues_of_isIn (List.all_eq_true.mp others)⟩

theorem ne_of_isIn {c : CodePoint} {sign : Char} (part : c.isIn isIdentifierPart)
    (noPart : isIdentifierPart sign = false) : c ≠ sign := by
  rintro rfl
  exact Bool.noConfusion (part.symm.trans noPart)

private theorem head?_closed (parts : ∀ c ∈ name, c.isIn isIdentifierPart) (rest : Text) :
    (name ++ .char '\x7d' :: rest).head? ≠ some (.char '\x7b') := by
  cases name with
  | nil => simp
  | cons c name =>
      intro curly
      exact ne_of_isIn (parts c List.mem_cons_self) rfl (Option.some.inj curly)

private theorem templateOf_closed (parts : ∀ c ∈ name, c.isIn isIdentifierPart) (rest : Text) :
    templateOf names (name ++ .char '\x7d' :: rest) =
      name ++ .char '\x7d' :: templateOf names rest := by
  induction name with
  | nil =>
      rw [List.nil_append, templateOf_of_ne (by decide), escapedBefore, if_neg (by simp)]
      rfl
  | cons c name induction =>
      obtain ⟨part, others⟩ := List.forall_mem_cons.mp parts
      have plain : ¬(c = '\\' ∨ c = '\x60' ∨
          c = '$' ∧ (name ++ .char '\x7d' :: rest).head? = some (.char '\x7b')) := by
        rintro (escape | mark | ⟨_, curly⟩)
        · exact ne_of_isIn part rfl escape
        · exact ne_of_isIn part rfl mark
        · exact head?_closed others rest curly
      rw [List.cons_append, templateOf_of_ne (ne_of_isIn part rfl), escapedBefore, if_neg plain,
        induction others]
      rfl

/-- A character that opens no placeholder and is no escape stands for itself. -/
theorem of_templateOf_cons {c : CodePoint} {more : Text} (notCurly : c ≠ '\x7b')
    (notEscape : c ≠ '\\') (apart : c = '$' → more.head? ≠ some (.char '\x7b'))
    (begins : templateOf names text = c :: more) :
    ∃ rest, text = c :: rest ∧ templateOf names rest = more := by
  cases text with
  | nil =>
      rw [templateOf] at begins
      cases begins
  | cons d rest =>
      by_cases curly : d = '\x7b'
      · subst curly
        cases found : slot? names rest with
        | none =>
            rw [templateOf_of_none found] at begins
            exact absurd (List.cons.inj begins).1.symm notCurly
        | some slot =>
            rw [templateOf_of_some found] at begins
            obtain ⟨dollar, rfl⟩ := List.cons.inj begins
            exact absurd rfl (apart dollar.symm)
      · rw [templateOf_of_ne curly, escapedBefore] at begins
        split at begins
        · exact absurd (List.cons.inj begins).1.symm notEscape
        · obtain ⟨rfl, others⟩ := List.cons.inj begins
          exact ⟨rest, rfl, others⟩

private theorem exists_of_templateOf_closed (parts : ∀ c ∈ name, c.isIn isIdentifierPart)
    {more : Text} (begins : templateOf names text = name ++ .char '\x7d' :: more) :
    ∃ rest, text = name ++ .char '\x7d' :: rest := by
  induction name generalizing text with
  | nil =>
      obtain ⟨rest, same, _⟩ := of_templateOf_cons (by decide) (by decide)
        (fun dollar => absurd dollar (by decide)) begins
      exact ⟨rest, same⟩
  | cons c name induction =>
      obtain ⟨part, others⟩ := List.forall_mem_cons.mp parts
      obtain ⟨rest, rfl, later⟩ := of_templateOf_cons (ne_of_isIn part rfl) (ne_of_isIn part rfl)
        (fun _ => head?_closed others more) begins
      obtain ⟨rest, rfl⟩ := induction others later
      exact ⟨rest, rfl⟩

end

/-! ## Arguments one after the other -/

section

variable {names : List Text} {argument : Argument} {rest text : Text}

theorem substituted_append_of_not_mem (apart : CodePoint.char '\x7b' ∉ text) (rest : Text) :
    Endpoint.substituted (text ++ rest) argument = text ++ Endpoint.substituted rest argument :=
  Text.replaceAll_append_of_not_mem apart rest

/-- A name that is in brackets for the argument gives way to its access. -/
theorem substituted_slot (rest : Text) :
    Endpoint.substituted (.char '\x7b' :: (argument.name ++ .char '\x7d' :: rest)) argument =
      "$\x7b" ++ memberAccess "path" argument.name ++ "\x7d" ++
        Endpoint.substituted rest argument := by
  have found := Text.remainder?_append (argument.name ++ Text.ofString "\x7d") rest
  rw [List.append_assoc] at found
  exact Text.replaceAll_of_some found

/-- Other brackets stay as they are. -/
theorem substituted_bracket
    (missing : Text.remainder? (argument.name ++ Text.ofString "\x7d") text = none) :
    Endpoint.substituted (.char '\x7b' :: text) argument =
      .char '\x7b' :: Endpoint.substituted text argument :=
  Text.replaceAll_of_none missing

/-- An access that stands for another name holds nothing to replace. -/
theorem substituted_access (whole : isWholeIdentifier argument.name) {name : Text}
    (another : isWholeIdentifier name) (rest : Text) :
    Endpoint.substituted ("$\x7b" ++ memberAccess "path" name ++ "\x7d" ++ rest) argument =
      "$\x7b" ++ memberAccess "path" name ++ "\x7d" ++ Endpoint.substituted rest argument := by
  have pieces (rest : Text) :
      Text.ofString "$\x7b" ++ memberAccess "path" name ++ Text.ofString "\x7d" ++ rest =
        [CodePoint.char '$'] ++ CodePoint.char '\x7b' ::
          (memberAccess "path" name ++ Text.ofString "\x7d" ++ rest) := by
    rw [List.append_assoc, List.append_assoc, ← List.append_assoc (memberAccess "path" name)]
    rfl
  have missing := IsTemplate.remainder?_memberAccess (isIdentifier_of_isWholeIdentifier whole)
    (isIdentifier_of_isWholeIdentifier another) (Text.ofString "\x7d" ++ rest)
  rw [← List.append_assoc] at missing
  have noBracket : CodePoint.char '\x7b' ∉ memberAccess "path" name ++ Text.ofString "\x7d" := by
    have inName := isIn_of_isWholeIdentifier another
    rw [IsTemplate.memberAccess_of_isIdentifier (isIdentifier_of_isWholeIdentifier another),
      List.mem_append, List.mem_append, not_or, not_or]
    exact ⟨⟨by decide, fun member => ne_of_isIn (inName _ member) rfl rfl⟩, by decide⟩
  rw [pieces, pieces, substituted_append_of_not_mem (by decide), substituted_bracket missing,
    substituted_append_of_not_mem noBracket]

/-- A template begins with no placeholder that the path does not begin with. -/
theorem remainder?_templateOf {last : Text} (parts : ∀ c ∈ last, c.isIn isIdentifierPart)
    (missing : slot? (names ++ [last]) text = none) :
    Text.remainder? (last ++ Text.ofString "\x7d") (templateOf names text) = none := by
  by_contra present
  obtain ⟨more, begins⟩ := Option.ne_none_iff_exists'.mp present
  have closed := Text.remainder?_eq_some begins
  rw [List.append_assoc] at closed
  obtain ⟨rest, rfl⟩ := exists_of_templateOf_closed parts closed
  have there : slot? (names ++ [last]) (last ++ .char '\x7d' :: rest) = some (last, rest) :=
    slot?_eq_some_iff.mpr ⟨List.mem_append_right names List.mem_cons_self,
      fun member => ne_of_isIn (parts _ member) rfl rfl, rfl⟩
  exact Option.some_ne_none _ (there.symm.trans missing)

/-- What comes before the bracket that closes a name has nothing to replace. -/
theorem substituted_templateOf_closed (parts : ∀ c ∈ argument.name, c.isIn isIdentifierPart)
    (rest : Text) :
    Endpoint.substituted (templateOf names (argument.name ++ .char '\x7d' :: rest)) argument =
      argument.name ++ .char '\x7d' :: Endpoint.substituted (templateOf names rest) argument := by
  have noBracket : CodePoint.char '\x7b' ∉ argument.name ++ Text.ofString "\x7d" := by
    rw [List.mem_append, not_or]
    exact ⟨fun member => ne_of_isIn (parts _ member) rfl rfl, by decide⟩
  have whole (rest : Text) : argument.name ++ .char '\x7d' :: rest =
      argument.name ++ Text.ofString "\x7d" ++ rest := by
    rw [List.append_assoc]
    rfl
  rw [templateOf_closed parts, whole, whole, substituted_append_of_not_mem noBracket]

/-- What one more argument changes in a template is what it changes in the path. -/
theorem substituted_templateOf (identifiers : ∀ name ∈ names, isWholeIdentifier name)
    (whole : isWholeIdentifier argument.name) (path : Text) :
    Endpoint.substituted (templateOf names path) argument =
      templateOf (names ++ [argument.name]) path := by
  have parts := isIn_of_isWholeIdentifier whole
  induction path using templateOf.induct names with
  | case1 =>
      rw [templateOf, templateOf, Endpoint.substituted, Text.replaceAll]
  | case2 text name rest found induction =>
      have another := identifiers name (slot?_eq_some_iff.mp found).1
      rw [templateOf_of_some found, templateOf_of_some (slot?_append_of_some found _),
        substituted_access whole another, induction]
  | case3 text missing induction =>
      cases found : slot? (names ++ [argument.name]) text with
      | some slot =>
          obtain ⟨name, rest⟩ := slot
          obtain ⟨rfl, rfl⟩ := eq_of_slot?_append missing found
          rw [substituted_templateOf_closed parts, templateOf_closed parts,
            List.append_cancel_left_eq, List.cons.injEq] at induction
          rw [templateOf_of_none missing, templateOf_of_some found, templateOf_closed parts,
            substituted_slot, induction.2]
      | none =>
          rw [templateOf_of_none missing, templateOf_of_none found,
            substituted_bracket (remainder?_templateOf parts found), induction]
  | case4 c text plain induction =>
      have noBracket : CodePoint.char '\x7b' ∉ escapedBefore c text := by
        rw [escapedBefore]
        split <;> simp [Ne.symm plain]
      rw [templateOf_of_ne plain, templateOf_of_ne plain, substituted_append_of_not_mem noBracket,
        induction]

end

private theorem foldl_substituted {arguments : List Argument}
    (whole : ∀ argument ∈ arguments, isWholeIdentifier argument.name) {names : List Text}
    (identifiers : ∀ name ∈ names, isWholeIdentifier name) (path : Text) :
    arguments.foldl Endpoint.substituted (templateOf names path) =
      templateOf (names ++ arguments.map (·.name)) path := by
  induction arguments generalizing names with
  | nil => rw [List.map_nil, List.append_nil]; rfl
  | cons argument others induction =>
      obtain ⟨first, later⟩ := List.forall_mem_cons.mp whole
      have further : ∀ name ∈ names ++ [argument.name], isWholeIdentifier name := by
        simpa [or_imp, forall_and, first] using identifiers
      rw [List.foldl_cons, substituted_templateOf identifiers first, induction later further,
        List.map_cons, List.append_assoc]
      rfl

/-! ## Templates evaluated -/

namespace Evaluation

variable {value : Text → Text}

/-- A dollar sign that opens no placeholder stands for itself. -/
theorem foldl_dollar {rest : Text} (more : rest ≠ []) (apart : rest.head? ≠ some (.char '\x7b'))
    (read : Text) :
    rest.foldl (step value) (.dollar read) =
      rest.foldl (step value) (.inside (read ++ [.char '$'])) := by
  cases rest with
  | nil => exact absurd rfl more
  | cons c rest =>
      have notCurly : c ≠ '\x7b' := fun curly => apart (congrArg some curly)
      rw [List.foldl_cons, step, if_neg notCurly]
      rfl

/-- A character of a path evaluates to itself, whatever follows it. -/
theorem foldl_escapedBefore {c : CodePoint} {text rest : Text} (more : rest ≠ [])
    (opens : rest.head? = some (.char '\x7b') → text.head? = some (.char '\x7b')) (read : Text) :
    (escapedBefore c text ++ rest).foldl (step value) (.inside read) =
      rest.foldl (step value) (.inside (read ++ [c])) := by
  rw [escapedBefore]
  split
  · rfl
  · rename_i plain
    rw [not_or, not_or] at plain
    obtain ⟨notEscape, notMark, closed⟩ := plain
    rw [List.singleton_append, List.foldl_cons, step, stepInside, if_neg notMark, if_neg notEscape]
    by_cases dollar : c = '$'
    · subst dollar
      rw [if_pos rfl]
      exact foldl_dollar more (fun curly => closed ⟨rfl, opens curly⟩) read
    · rw [if_neg dollar]

private theorem foldl_content {content : Text} (unclosed : CodePoint.char '\x7d' ∉ content)
    (read done : Text) :
    content.foldl (step value) (.placeholder read done) = .placeholder read (done ++ content) := by
  induction content generalizing done with
  | nil => rw [List.append_nil]; rfl
  | cons c content induction =>
      rw [List.mem_cons, not_or] at unclosed
      rw [List.foldl_cons, step, if_neg (Ne.symm unclosed.1), induction unclosed.2,
        List.append_assoc]
      rfl

/-- An access evaluates to the value of its name. -/
theorem foldl_access {name : Text} (whole : isWholeIdentifier name) (read : Text) :
    (("$\x7b" : Text) ++ memberAccess "path" name ++ "\x7d").foldl (step value) (.inside read) =
      .inside (read ++ value name) := by
  have noBracket : CodePoint.char '\x7d' ∉ memberAccess "path" name := by
    rw [IsTemplate.memberAccess_of_isIdentifier (isIdentifier_of_isWholeIdentifier whole),
      List.mem_append, not_or]
    exact ⟨by decide, fun member => ne_of_isIn (isIn_of_isWholeIdentifier whole _ member) rfl rfl⟩
  have accessed : accessed? value (memberAccess "path" name) = some (value name) := by
    have found := Text.remainder?_append (Text.ofString "path.") name
    rw [IsTemplate.memberAccess_of_isIdentifier (isIdentifier_of_isWholeIdentifier whole),
      accessed?]
    change (match Text.remainder? (Text.ofString "path.") (Text.ofString "path." ++ name) with
      | some name => if isWholeIdentifier name then some (value name) else none
      | none => none) = some (value name)
    rw [found]
    exact if_pos whole
  have closing : step value (.placeholder read (memberAccess "path" name)) (.char '\x7d') =
      .inside (read ++ value name) := by
    rw [step, if_pos rfl, accessed]
  rw [List.foldl_append, List.foldl_append]
  change (step value ((memberAccess "path" name).foldl (step value) (.placeholder read []))
    (.char '\x7d')) = _
  rw [foldl_content noBracket, List.nil_append, closing]

end Evaluation

private theorem head?_templateOf {names : List Text} {text : Text}
    (opens : (templateOf names text).head? = some (.char '\x7b')) :
    text.head? = some (.char '\x7b') := by
  cases text with
  | nil =>
      rw [templateOf] at opens
      exact opens
  | cons c rest =>
      by_cases curly : c = '\x7b'
      · exact congrArg some curly
      · rw [templateOf_of_ne curly, escapedBefore] at opens
        split at opens
        · simp at opens
        · exact opens

/-- A template for a path evaluates to the path with the values in it. -/
theorem foldl_templateOf {names : List Text} (identifiers : ∀ name ∈ names, isWholeIdentifier name)
    (value : Text → Text) (path read : Text) :
    (templateOf names path ++ Endpoint.templateMark).foldl (Evaluation.step value) (.inside read) =
      .complete (read ++ filled names value path) := by
  induction path using templateOf.induct names generalizing read with
  | case1 =>
      rw [templateOf, filled, List.append_nil]
      rfl
  | case2 text name rest found induction =>
      have whole := identifiers name (slot?_eq_some_iff.mp found).1
      rw [templateOf_of_some found, filled_of_some found, List.append_assoc, List.foldl_append,
        Evaluation.foldl_access whole, induction, List.append_assoc]
  | case3 text missing induction =>
      rw [templateOf_of_none missing, filled_of_none missing, List.cons_append, List.foldl_cons]
      exact (induction _).trans (by rw [List.append_assoc]; rfl)
  | case4 c text plain induction =>
      have opens : (templateOf names text ++ Endpoint.templateMark).head? = some (.char '\x7b') →
          text.head? = some (.char '\x7b') := by
        intro curly
        rw [List.head?_append, Option.or_eq_some_iff] at curly
        rcases curly with curly | ⟨_, mark⟩
        · exact head?_templateOf curly
        · exact absurd mark (by decide)
      have more : templateOf names text ++ Endpoint.templateMark ≠ [] := fun empty =>
        absurd (List.append_eq_nil_iff.mp empty).2 (by decide)
      rw [templateOf_of_ne plain, filled_of_ne plain, List.append_assoc,
        Evaluation.foldl_escapedBefore more opens, induction, List.append_assoc]
      rfl

private theorem evaluated?_quoted (value : Text → Text) (text : Text) :
    evaluated? value (quoted text) = some text := by
  have complete : (Text.Literal.body text ++ Text.ofString "'").foldl Quotation.step (.inside []) =
      .complete text := by
    rw [List.foldl_append, Quotation.read_body, List.nil_append]
    rfl
  change (match (Text.Literal.body text ++ Text.ofString "'").foldl Quotation.step (.inside []) with
    | .complete text => some text
    | _ => none) = some text
  rw [complete]

private theorem evaluated?_template {arguments : List Argument}
    (identifiers : ∀ argument ∈ arguments, isWholeIdentifier argument.name) (value : Text → Text)
    (path : Text) :
    evaluated? value (Endpoint.templateMark ++
        arguments.foldl Endpoint.substituted (Endpoint.templateText path) ++
          Endpoint.templateMark) =
      some (filled (arguments.map (·.name)) value path) := by
  have names : ∀ name ∈ arguments.map (·.name), isWholeIdentifier name := by simpa using identifiers
  rw [templateText_eq, foldl_substituted identifiers (List.forall_mem_nil _), List.nil_append]
  change (match (templateOf (arguments.map (·.name)) path ++ Endpoint.templateMark).foldl
      (Evaluation.step value) (.inside []) with
    | .complete text => some text
    | _ => none) = _
  rw [foldl_templateOf names, List.nil_append]

/-- The expression for an address evaluates to the path in which every placeholder for an
argument has given way to its value. -/
theorem evaluated?_urlExpression {endpoint : Endpoint}
    (identifiers : ∀ argument ∈ endpoint.argumentsIn .path, isWholeIdentifier argument.name)
    (value : Text → Text) :
    evaluated? value endpoint.urlExpression =
      some (filled ((endpoint.argumentsIn .path).map (·.name)) value endpoint.path) := by
  rw [Endpoint.urlExpression]
  generalize endpoint.argumentsIn .path = arguments at identifiers
  cases arguments with
  | nil => rw [evaluated?_quoted, List.map_nil, filled_nil]
  | cons argument others => exact evaluated?_template identifiers value endpoint.path

/-- An address with signs of its own, a placeholder after a dollar sign, one that is met twice
and one for which there is no argument. -/
def signedAddress : Endpoint where
  operationId := "a"
  method := "get"
  path := "/$\x7bid\x7d\\\x60\x7bpath\x7d/\x7bother\x7d\x7bid\x7d"
  tags := []
  arguments :=
    [⟨"path", .path, true, "string", none⟩, ⟨"id", .path, true, "string", none⟩,
      ⟨"other", .query, true, "string", none⟩]

theorem evaluated?_signedAddress :
    (∀ argument ∈ signedAddress.argumentsIn .path, isWholeIdentifier argument.name) ∧
      evaluated? (fun name => "<" ++ name ++ ">") signedAddress.urlExpression =
        some "/$<id>\\\x60<path>/\x7bother\x7d<id>" := by
  have identifiers : ∀ argument ∈ signedAddress.argumentsIn .path,
      isWholeIdentifier argument.name := by decide
  refine ⟨identifiers, (evaluated?_urlExpression identifiers _).trans ?_⟩
  cbv

end Code

end ApiClient
