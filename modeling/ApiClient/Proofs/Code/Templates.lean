import ApiClient.Api.Method
import ApiClient.Proofs.Code.Literals

/-! Addresses as templates. Signs of a path lose their meaning before anything is put in, and
what is put in for an argument is a placeholder around an identifier, in which no other argument
finds anything to replace. So a template ends at its closing mark, whatever the path holds. -/

namespace ApiClient.Code

/-- The inside of a template. -/
inductive IsTemplate : Text → Prop where
  | nil : IsTemplate []
  | plain {c : CodePoint} {rest : Text} (notEscape : c ≠ '\\') (notMark : c ≠ '\x60')
      (apart : c = '$' → rest.head? ≠ some (.char '\x7b')) (others : IsTemplate rest) :
      IsTemplate (c :: rest)
  | escaped {c : CodePoint} {rest : Text} (sign : c = '\\' ∨ c = '\x60' ∨ c = '$')
      (others : IsTemplate rest) : IsTemplate (.char '\\' :: c :: rest)
  | placeholder {name rest : Text} (identifier : isIdentifier name) (others : IsTemplate rest) :
      IsTemplate ("$\x7b" ++ (memberAccess "path" name ++ ("\x7d" ++ rest)))

namespace IsTemplate

/-- Signs are escaped, apart from the dollar. -/
inductive IsMarked : Text → Prop where
  | nil : IsMarked []
  | plain {c : CodePoint} {rest : Text} (notEscape : c ≠ '\\') (notMark : c ≠ '\x60')
      (others : IsMarked rest) : IsMarked (c :: rest)
  | escaped {c : CodePoint} {rest : Text} (sign : c = '\\' ∨ c = '\x60')
      (others : IsMarked rest) : IsMarked (.char '\\' :: c :: rest)

private theorem of_isMarked {text : Text} (marked : IsMarked text) :
    IsTemplate (Text.replaceAll (.char '$') "\x7b" "\\$\x7b" text) := by
  induction marked with
  | nil =>
      rw [Text.replaceAll]
      exact .nil
  | @plain c rest notEscape notMark _ induction =>
      by_cases dollar : c = '$'
      · subst dollar
        cases found : Text.remainder? "\x7b" rest with
        | none =>
            rw [Text.replaceAll_of_none found]
            refine .plain notEscape notMark (fun _ => ?_) induction
            intro curly
            have begins : (Text.ofString "\\$\x7b").head? = some (.char '\\') := rfl
            rcases Text.head?_replaceAll begins rest with same | ⟨_, backslash⟩
            · obtain ⟨more, rfl⟩ := List.head?_eq_some_iff.mp (same.symm.trans curly)
              have occurs := Text.remainder?_append "\x7b" more
              exact Option.some_ne_none more (occurs.symm.trans found)
            · exact absurd (backslash.symm.trans curly) (by decide)
        | some more =>
            obtain rfl := Text.remainder?_eq_some found
            rw [Text.replaceAll_append_of_not_mem (by decide)] at induction
            rw [Text.replaceAll_of_some found]
            exact .escaped (.inr (.inr rfl)) induction
      · rw [Text.replaceAll_of_ne dollar]
        exact .plain notEscape notMark (fun isDollar => absurd isDollar dollar) induction
  | @escaped c rest sign _ induction =>
      have notDollar : c ≠ '$' := by rcases sign with rfl | rfl <;> decide
      rw [Text.replaceAll_of_ne (by decide), Text.replaceAll_of_ne notDollar]
      exact .escaped (sign.imp_right .inl) induction

private theorem templateText (text : Text) : IsTemplate (Endpoint.templateText text) := by
  apply of_isMarked
  induction text with
  | nil => exact .nil
  | cons c rest induction =>
      rw [List.flatMap_cons]
      by_cases sign : c = '\\' ∨ c = '\x60'
      · rw [if_pos sign]
        exact .escaped sign induction
      · rw [if_neg sign]
        rw [not_or] at sign
        exact .plain sign.1 sign.2 induction

/-! ## Placeholders -/

theorem not_mem_of_isIdentifier {name : Text} (identifier : isIdentifier name) {sign : Char}
    (noPart : isIdentifierPart sign = false) (notBreak : CodePoint.char sign ≠ '\n') :
    CodePoint.char sign ∉ name := by
  intro member
  rcases isIn_of_isIdentifier identifier _ member with part | lineFeed
  · exact Bool.noConfusion (part.symm.trans noPart)
  · exact notBreak lineFeed

theorem memberAccess_of_isIdentifier {name : Text} (identifier : isIdentifier name)
    (target : Text) :
    memberAccess target name = target ++ "." ++ name :=
  if_pos identifier

private theorem of_cons {c : CodePoint} {rest : Text} (notEscape : c ≠ '\\')
    (apart : c = '$' → rest.head? ≠ some (.char '\x7b')) (template : IsTemplate (c :: rest)) :
    IsTemplate rest := by
  generalize whole : c :: rest = text at template
  cases template with
  | nil => cases whole
  | plain _ _ _ others =>
      cases whole
      exact others
  | escaped _ _ =>
      cases whole
      exact absurd rfl notEscape
  | placeholder _ _ =>
      cases whole
      exact absurd rfl (apart rfl)

/-- What stands after a text without signs is a template if the whole is one. -/
theorem of_append {text rest : Text} (noEscape : .char '\\' ∉ text) (noCurly : .char '\x7b' ∉ text)
    (apart : rest.head? ≠ some (.char '\x7b')) (template : IsTemplate (text ++ rest)) :
    IsTemplate rest := by
  induction text with
  | nil => exact template
  | cons c text induction =>
      rw [List.mem_cons, not_or] at noEscape noCurly
      apply induction noEscape.2 noCurly.2
      refine of_cons (Ne.symm noEscape.1) (fun _ => ?_) template
      cases text with
      | nil => exact apart
      | cons d text =>
          intro curly
          exact noCurly.2 (Option.some.inj curly ▸ List.mem_cons_self)

/-- No name, with the end of a placeholder, begins the access to another. -/
theorem remainder?_memberAccess {name other : Text} (identifier : isIdentifier name)
    (another : isIdentifier other) (rest : Text) :
    Text.remainder? (name ++ Text.ofString "\x7d") (memberAccess "path" other ++ rest) = none := by
  cases found : Text.remainder? (name ++ Text.ofString "\x7d")
    (memberAccess "path" other ++ rest) with
  | none => rfl
  | some more =>
      have whole := Text.remainder?_eq_some found
      rw [memberAccess_of_isIdentifier another, List.append_assoc] at whole
      rcases List.append_eq_append_iff.mp whole with ⟨between, longer, _⟩ | ⟨between, longer, _⟩
      · have point : CodePoint.char '.' ∈ name ++ Text.ofString "\x7d" :=
          longer ▸ List.mem_append_left between (by decide)
        rcases List.mem_append.mp point with inName | inEnd
        · exact absurd inName (not_mem_of_isIdentifier identifier rfl (by decide))
        · exact absurd inEnd (by decide)
      · have curly : CodePoint.char '\x7d' ∈ Text.ofString "path" ++ Text.ofString "." :=
          longer ▸ List.mem_append_left between (List.mem_append_right name (by decide))
        exact absurd curly (by decide)

/-- What follows an argument's name in curly brackets is still a template when they are gone. -/
theorem substituted_curly {argument : Argument} (identifier : isIdentifier argument.name)
    {rest : Text} (others : IsTemplate (Endpoint.substituted rest argument)) :
    IsTemplate (Endpoint.substituted (.char '\x7b' :: rest) argument) := by
  rw [Endpoint.substituted] at others ⊢
  cases found : Text.remainder? (argument.name ++ Text.ofString "\x7d") rest with
  | none =>
      rw [Text.replaceAll_of_none found]
      exact .plain (by decide) (by decide) (fun dollar => absurd dollar (by decide)) others
  | some more =>
      have noCurly : CodePoint.char '\x7b' ∉ argument.name :=
        not_mem_of_isIdentifier identifier rfl (by decide)
      have noEscape : CodePoint.char '\\' ∉ argument.name :=
        not_mem_of_isIdentifier identifier rfl (by decide)
      obtain rfl := Text.remainder?_eq_some found
      rw [List.append_assoc argument.name, Text.replaceAll_append_of_not_mem noCurly,
        Text.replaceAll_append_of_not_mem (by decide)] at others
      have bracket := of_append noEscape noCurly (by simp [Text.ofString, Text.ofCharacters]) others
      have inside := of_cons (by decide) (fun dollar => absurd dollar (by decide)) bracket
      rw [Text.replaceAll_of_some found, List.append_assoc, List.append_assoc]
      exact .placeholder identifier inside

private theorem substituted {url : Text} (template : IsTemplate url) {argument : Argument}
    (identifier : isIdentifier argument.name) :
    IsTemplate (Endpoint.substituted url argument) := by
  have begins : (Text.ofString "$\x7b" ++ memberAccess "path" argument.name ++
      Text.ofString "\x7d").head? = some (.char '$') := rfl
  rw [Endpoint.substituted]
  induction template with
  | nil =>
      rw [Text.replaceAll]
      exact .nil
  | @plain c rest notEscape notMark apart _ induction =>
      by_cases curly : c = '\x7b'
      · subst curly
        exact substituted_curly identifier induction
      · rw [Text.replaceAll_of_ne curly]
        refine .plain notEscape notMark (fun dollar isCurly => ?_) induction
        rcases Text.head?_replaceAll begins rest with same | ⟨found, _⟩
        · exact apart dollar (same.symm.trans isCurly)
        · exact apart dollar found
  | @escaped c rest sign _ induction =>
      have notCurly : c ≠ '\x7b' := by rcases sign with rfl | rfl | rfl <;> decide
      rw [Text.replaceAll_of_ne (by decide), Text.replaceAll_of_ne notCurly]
      exact .escaped sign induction
  | @placeholder name rest another _ induction =>
      have accessNoCurly : CodePoint.char '\x7b' ∉ memberAccess "path" name := by
        rw [memberAccess_of_isIdentifier another, List.mem_append, not_or]
        exact ⟨by decide, not_mem_of_isIdentifier another rfl (by decide)⟩
      change IsTemplate
        (Text.replaceAll _ _ _ (.char '$' :: .char '\x7b' :: (memberAccess "path" name ++ _)))
      rw [Text.replaceAll_of_ne (by decide),
        Text.replaceAll_of_none (remainder?_memberAccess identifier another _),
        Text.replaceAll_append_of_not_mem accessNoCurly,
        Text.replaceAll_append_of_not_mem (by decide)]
      exact .placeholder another induction

/-! ## Reading -/

private theorem scan_templateMark {text : Text} (template : IsTemplate text) {mode : Mode}
    (inside : mode = .template ∨ mode = .dollar)
    (seam : mode = .dollar → text.head? ≠ some (.char '\x7b')) (outside : List Bracket) :
    Scanner.scan ⟨outside, mode⟩ (text ++ Endpoint.templateMark) = ⟨outside, .code⟩ := by
  induction template generalizing mode with
  | nil => rcases inside with rfl | rfl <;> rfl
  | @plain c rest notEscape notMark apart _ induction =>
      let next : Mode := if c = '$' then .dollar else .template
      have step : Scanner.step ⟨outside, mode⟩ c = ⟨outside, next⟩ := by
        have chosen : Scanner.templateMode c = next := by
          rw [Scanner.templateMode, if_neg notMark, if_neg notEscape]
        rcases inside with rfl | rfl
        · exact congrArg (Scanner.mk outside) chosen
        · have notCurly : c ≠ '\x7b' := fun curly => seam rfl (congrArg some curly)
          exact (if_neg notCurly).trans (congrArg (Scanner.mk outside) chosen)
      rw [List.cons_append, Scanner.scan_cons, step]
      apply induction
      · dsimp only [next]
        split
        · exact .inr rfl
        · exact .inl rfl
      · intro isDollar
        apply apart
        by_contra notDollar
        exact Mode.noConfusion ((if_neg notDollar).symm.trans isDollar)
  | escaped sign _ induction =>
      have inTemplate := induction (.inl rfl) Mode.noConfusion
      rcases inside with rfl | rfl <;> exact inTemplate
  | @placeholder name rest identifier _ induction =>
      have access : Scanner.scan ⟨.placeholder :: outside, .code⟩ (memberAccess "path" name) =
          ⟨.placeholder :: outside, .code⟩ :=
        balanced_memberAccess (fun _ => rfl) name (.placeholder :: outside)
      have opening : Scanner.scan ⟨outside, mode⟩ "$\x7b" = ⟨.placeholder :: outside, .code⟩ := by
        rcases inside with rfl | rfl <;> rfl
      rw [List.append_assoc, List.append_assoc, List.append_assoc, Scanner.scan_append,
        Scanner.scan_append, opening, access]
      exact induction (.inl rfl) Mode.noConfusion

end IsTemplate

/-- The address of an endpoint is balanced if its path parameters are named by identifiers. -/
theorem balanced_urlExpression {endpoint : Endpoint}
    (identifiers : ∀ argument ∈ endpoint.argumentsIn .path, isIdentifier argument.name) :
    Balanced endpoint.urlExpression := by
  rw [Endpoint.urlExpression]
  split
  · exact balanced_quoted _
  · have template : ∀ {url : Text} {arguments : List Argument}, IsTemplate url →
        (∀ argument ∈ arguments, isIdentifier argument.name) →
        IsTemplate (arguments.foldl Endpoint.substituted url) := by
      intro url arguments template identifiers
      induction arguments generalizing url with
      | nil => exact template
      | cons first others induction =>
          have ⟨identifier, later⟩ := List.forall_mem_cons.mp identifiers
          exact induction (template.substituted identifier) later
    intro outside
    rw [List.append_assoc, Scanner.scan_append]
    exact (template (.templateText endpoint.path) identifiers).scan_templateMark (.inl rfl)
      Mode.noConfusion outside

end ApiClient.Code
