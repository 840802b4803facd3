import ApiClient.Proofs.Code.Addresses
import ApiClient.Proofs.Text.Replacement

/-! The order of arguments in addresses. Placeholders give way to accesses one argument
after the other, in a text that holds the accesses put in before. An access that is itself
a name stands in brackets like the placeholder for that name, and gives way once more if
that argument comes later. -/

namespace ApiClient

namespace Endpoint

/-- The address is the same in whatever order the arguments are given. -/
def HasStableAddress (endpoint : Endpoint) : Prop :=
  ∀ arguments : List Argument, arguments.Perm endpoint.arguments →
    urlExpression { endpoint with arguments := arguments } = endpoint.urlExpression

/-- The place of an argument in a path. -/
def placeholder (name : Text) : Text :=
  "\x7b" ++ name ++ "\x7d"

/-- What the place of an argument gives way to. -/
def insertion (name : Text) : Text :=
  "$\x7b" ++ memberAccess "path" name ++ "\x7d"

/-- Neither name is looked for in a text that overlaps with what is looked for, or
put in, for the other one. -/
structure AreApart (name other : Text) : Prop where
  placeholders : ¬Text.Overlap (placeholder name) (placeholder other)
  first : ¬Text.Overlap (placeholder name) (insertion other)
  second : ¬Text.Overlap (placeholder other) (insertion name)

private theorem substituted_comm {argument other : Argument}
    (apart : AreApart argument.name other.name) (url : Text) :
    substituted (substituted url argument) other = substituted (substituted url other) argument :=
  (Text.replaceAll_comm apart.placeholders apart.first apart.second url).symm

private theorem foldl_substituted_perm {arguments others : List Argument}
    (apart : ∀ argument ∈ arguments, ∀ other ∈ arguments, argument.name ≠ other.name →
      AreApart argument.name other.name)
    (perm : arguments.Perm others) (url : Text) :
    arguments.foldl substituted url = others.foldl substituted url := by
  refine perm.foldl_eq' (fun argument member other otherMember url => ?_) url
  by_cases same : argument.name = other.name
  · simp only [substituted, same]
  · exact substituted_comm (apart argument member other otherMember same) url

/-! ## Orders -/

section

variable {endpoint : Endpoint}

private theorem urlExpression_eq : endpoint.urlExpression =
    if endpoint.argumentsIn .path = [] then quoted endpoint.path
    else templateMark ++
      (endpoint.argumentsIn .path).foldl substituted (templateText endpoint.path) ++
      templateMark := by
  rw [urlExpression]
  generalize endpoint.argumentsIn .path = arguments
  cases arguments with
  | nil => rfl
  | cons argument others => rw [if_neg (List.cons_ne_nil argument others)]

/-- Only the order of the arguments in the path counts. -/
theorem hasStableAddress_iff_foldl : endpoint.HasStableAddress ↔
    ∀ others : List Argument, others.Perm (endpoint.argumentsIn .path) →
      others.foldl substituted (templateText endpoint.path) =
        (endpoint.argumentsIn .path).foldl substituted (templateText endpoint.path) := by
  constructor
  · intro stable others perm
    let elsewhere := endpoint.arguments.filter (!·.place == .path)
    have whole : (others ++ elsewhere).Perm endpoint.arguments :=
      (perm.append_right elsewhere).trans (List.filter_append_perm _ _)
    have inPath : argumentsIn { endpoint with arguments := others ++ elsewhere } .path =
        others := by
      have ofOthers : others.filter (·.place == .path) = others :=
        List.filter_eq_self.mpr fun argument member => (List.mem_filter.mp (perm.subset member)).2
      have ofElsewhere : elsewhere.filter (·.place == .path) = [] := by
        simp [elsewhere]
      change (others ++ elsewhere).filter (·.place == .path) = others
      rw [List.filter_append, ofOthers, ofElsewhere, List.append_nil]
    have same := stable _ whole
    rw [urlExpression_eq, urlExpression_eq, inPath] at same
    by_cases none : endpoint.argumentsIn .path = []
    · rw [none] at perm ⊢
      rw [perm.eq_nil]
    · have someOther : others ≠ [] := fun empty => none (List.nil_perm.mp (empty ▸ perm))
      rw [if_neg someOther, if_neg none] at same
      exact List.append_cancel_left (List.append_cancel_right same)
  · intro stable arguments perm
    have inPath : (argumentsIn { endpoint with arguments := arguments } .path).Perm
        (endpoint.argumentsIn .path) := perm.filter _
    have empty : argumentsIn { endpoint with arguments := arguments } .path = [] ↔
        endpoint.argumentsIn .path = [] := by
      rw [← List.perm_nil, ← List.perm_nil]
      exact ⟨inPath.symm.trans, inPath.trans⟩
    rw [urlExpression_eq, urlExpression_eq, stable _ inPath]
    simp only [empty]

private theorem hasStableAddress_of_areApart
    (apart : ∀ argument ∈ endpoint.argumentsIn .path, ∀ other ∈ endpoint.argumentsIn .path,
      argument.name ≠ other.name → AreApart argument.name other.name) :
    endpoint.HasStableAddress :=
  hasStableAddress_iff_foldl.mpr fun _ perm =>
    (foldl_substituted_perm apart perm.symm _).symm

end

/-! ## Names without brackets

Where no name holds a bracket, the occurrences of a placeholder are the same at every time, and
each of them goes its own way. -/

def HasNoBrackets (name : Text) : Prop :=
  .char '\x7b' ∉ name ∧ .char '\x7d' ∉ name

instance (name : Text) : Decidable (HasNoBrackets name) :=
  inferInstanceAs (Decidable (_ ∧ _))

/-- What the placeholder for a name becomes when some arguments are substituted, given by their
names. -/
def inserted : List Text → Text → Text
  | [], name => placeholder name
  | first :: names, name =>
    if name = first then "$" ++ inserted names (memberAccess "path" name) else inserted names name

section

variable {name : Text} {argument : Argument} {arguments : List Argument} {text : Text}

theorem placeholder_append (name rest : Text) :
    placeholder name ++ rest = .char '\x7b' :: (name ++ .char '\x7d' :: rest) := by
  rw [placeholder, List.append_assoc, List.append_assoc]
  rfl

private theorem escape_subset (c : CodePoint) :
    Text.Literal.escape c ⊆ c :: Text.ofString "\\'nr" := by
  unfold Text.Literal.escape
  split
  · decide
  · decide
  · decide
  · decide
  · exact List.cons_subset_cons _ (List.nil_subset _)

private theorem mem_memberAccess {c : CodePoint} (member : c ∈ memberAccess "path" name) :
    c ∈ name ∨ c ∈ Text.ofString "path.[']\\nr" := by
  have sign {signs : Text} (among : signs ⊆ Text.ofString "path.[']\\nr") (isSign : c ∈ signs) :
      c ∈ name ∨ c ∈ Text.ofString "path.[']\\nr" := .inr (among isSign)
  unfold memberAccess quoted Text.Literal.encode Text.Literal.body at member
  split at member
  · simp only [List.mem_append] at member
    rcases member with (target | dot) | inName
    · exact sign (by decide) target
    · exact sign (by decide) dot
    · exact .inl inName
  · simp only [List.mem_append, List.mem_flatMap] at member
    rcases member with ((target | bracket) | (mark | ⟨d, inName, escape⟩) | mark) | bracket
    · exact sign (by decide) target
    · exact sign (by decide) bracket
    · exact sign (by decide) mark
    · rcases List.mem_cons.mp (escape_subset d escape) with rfl | escape
      · exact .inl inName
      · exact sign (by decide) escape
    · exact sign (by decide) mark
    · exact sign (by decide) bracket

/-- An access to a name without brackets has none of them either. -/
theorem HasNoBrackets.memberAccess (plain : HasNoBrackets name) :
    HasNoBrackets (memberAccess "path" name) :=
  ⟨fun member => (mem_memberAccess member).elim plain.1 (by decide),
    fun member => (mem_memberAccess member).elim plain.2 (by decide)⟩

/-- The name before a closing bracket is given by the text. -/
theorem eq_of_closed {name other rest more : Text} (plain : .char '\x7d' ∉ name)
    (plainOther : .char '\x7d' ∉ other)
    (same : name ++ .char '\x7d' :: rest = other ++ .char '\x7d' :: more) : name = other := by
  rcases List.append_eq_append_iff.mp same with ⟨between, rfl, later⟩ | ⟨between, rfl, later⟩
  · cases between with
    | nil => exact (List.append_nil name).symm
    | cons c between =>
        refine absurd (List.mem_append_right name ?_) plainOther
        exact (List.cons.inj later).1 ▸ List.mem_cons_self
  · cases between with
    | nil => exact List.append_nil other
    | cons c between =>
        refine absurd (List.mem_append_right other ?_) plain
        exact (List.cons.inj later).1 ▸ List.mem_cons_self

private theorem substituted_placeholder (rest : Text) :
    substituted (placeholder argument.name ++ rest) argument =
      .char '$' ::
        (placeholder (memberAccess "path" argument.name) ++ substituted rest argument) := by
  rw [placeholder_append, Code.substituted_slot, placeholder, List.append_assoc, List.append_assoc,
    List.append_assoc, List.append_assoc]
  rfl

private theorem substituted_otherPlaceholder (plain : HasNoBrackets name)
    (plainArgument : HasNoBrackets argument.name) (different : name ≠ argument.name) (rest : Text) :
    substituted (placeholder name ++ rest) argument =
      placeholder name ++ substituted rest argument := by
  have missing : Text.remainder? (argument.name ++ Text.ofString "\x7d")
      (name ++ .char '\x7d' :: rest) = none := by
    rw [Text.remainder?_eq_none_iff]
    rintro ⟨more, same⟩
    rw [List.append_assoc] at same
    exact different (eq_of_closed plainArgument.2 plain.2 same).symm
  have noBracket : .char '\x7b' ∉ name ++ Text.ofString "\x7d" := by
    rw [List.mem_append, not_or]
    exact ⟨plain.1, by decide⟩
  have kept : substituted (name ++ Text.ofString "\x7d" ++ rest) argument =
      name ++ Text.ofString "\x7d" ++ substituted rest argument :=
    Code.substituted_append_of_not_mem noBracket rest
  rw [placeholder_append, Code.substituted_bracket missing, placeholder_append]
  rw [List.append_assoc, List.append_assoc] at kept
  exact congrArg _ kept

private theorem foldl_of_ne {c : CodePoint} (notBracket : c ≠ '\x7b') (arguments : List Argument)
    (text : Text) :
    arguments.foldl substituted (c :: text) = c :: arguments.foldl substituted text := by
  induction arguments generalizing text with
  | nil => rfl
  | cons argument others induction =>
      have first : substituted (c :: text) argument = c :: substituted text argument :=
        Text.replaceAll_of_ne notBracket
      rw [List.foldl_cons, List.foldl_cons, first, induction]

private theorem foldl_placeholder (plain : ∀ argument ∈ arguments, HasNoBrackets argument.name)
    (plainName : HasNoBrackets name) (rest : Text) :
    arguments.foldl substituted (placeholder name ++ rest) =
      inserted (arguments.map (·.name)) name ++ arguments.foldl substituted rest := by
  induction arguments generalizing name rest with
  | nil => rfl
  | cons argument others induction =>
      obtain ⟨first, later⟩ := List.forall_mem_cons.mp plain
      rw [List.foldl_cons, List.foldl_cons, List.map_cons, inserted]
      by_cases same : name = argument.name
      · subst same
        rw [if_pos rfl, substituted_placeholder, foldl_of_ne (by decide),
          induction later plainName.memberAccess]
        rfl
      · rw [if_neg same, substituted_otherPlaceholder plainName first same,
          induction later plainName]

/-- What is put in closes no name. -/
theorem closed_prefix_of_substituted (plain : HasNoBrackets name)
    (begins : name ++ Text.ofString "\x7d" <+: substituted text argument) :
    name ++ Text.ofString "\x7d" <+: text := by
  refine Text.prefix_of_prefix_replaceAll (fun before part whole nonempty rest starts => ?_) begins
  -- it starts with a dollar and an opening bracket, where a closing one is the first of the name
  obtain ⟨c, part, rfl⟩ := List.exists_cons_of_ne_nil nonempty
  have starts : c :: part <+: .char '$' :: .char '\x7b' ::
      (memberAccess "path" argument.name ++ Text.ofString "\x7d" ++ rest) := starts
  obtain ⟨rfl, further⟩ := List.cons_prefix_cons.mp starts
  cases part with
  | nil =>
      have last := (List.append_inj' whole rfl).2
      exact absurd last (by decide)
  | cons d part =>
      obtain ⟨rfl, _⟩ := List.cons_prefix_cons.mp further
      have inside : .char '\x7b' ∈ name ++ Text.ofString "\x7d" := by simp [whole]
      rcases List.mem_append.mp inside with inName | closing
      · exact plain.1 inName
      · exact absurd closing (by decide)

/-- A bracket that opens no placeholder never comes to open one. -/
theorem foldl_bracket (plain : ∀ argument ∈ arguments, HasNoBrackets argument.name)
    (missing : ∀ argument ∈ arguments, ¬argument.name ++ Text.ofString "\x7d" <+: text) :
    arguments.foldl substituted (.char '\x7b' :: text) =
      .char '\x7b' :: arguments.foldl substituted text := by
  induction arguments generalizing text with
  | nil => rfl
  | cons argument others induction =>
      obtain ⟨ofFirst, ofOthers⟩ := List.forall_mem_cons.mp missing
      obtain ⟨_, later⟩ := List.forall_mem_cons.mp plain
      rw [List.foldl_cons, List.foldl_cons,
        Code.substituted_bracket (Text.remainder?_eq_none_iff.mpr ofFirst)]
      exact induction later fun other member begins =>
        ofOthers other member (closed_prefix_of_substituted (later other member) begins)

/-- Arguments that are substituted one after the other fill the places of the text that they
start with. -/
theorem foldl_substituted_eq_filled (plain : ∀ argument ∈ arguments, HasNoBrackets argument.name)
    (text : Text) :
    arguments.foldl substituted text =
      filled (arguments.map (·.name)) (inserted (arguments.map (·.name))) text := by
  induction text using filled.induct (arguments.map (·.name)) with
  | case1 =>
      rw [filled]
      exact List.foldl_fixed' (fun argument => by rw [substituted, Text.replaceAll]) arguments
  | case2 text name rest found induction =>
      obtain ⟨among, _, rfl⟩ := slot?_eq_some_iff.mp found
      obtain ⟨argument, member, rfl⟩ := List.mem_map.mp among
      rw [filled_of_some found, ← placeholder_append,
        foldl_placeholder plain (plain argument member), induction]
  | case3 text missing induction =>
      rw [filled_of_none missing, foldl_bracket plain, induction]
      rintro argument member ⟨rest, whole⟩
      have found : slot? (arguments.map (·.name)) text = some (argument.name, rest) := by
        refine slot?_eq_some_iff.mpr ⟨List.mem_map_of_mem member, (plain argument member).2, ?_⟩
        rw [← whole, List.append_assoc]
        rfl
      rw [found] at missing
      cases missing
  | case4 c text notBracket induction =>
      rw [filled_of_ne notBracket, foldl_of_ne notBracket, induction]

end

/-! ## What is put in -/

section

variable {names : List Text} {name : Text}

theorem length_lt_memberAccess (name : Text) : name.length < (memberAccess "path" name).length := by
  unfold memberAccess quoted Text.Literal.encode
  split
  · have target : (Text.ofString "path").length = 4 := rfl
    simp only [List.length_append]
    omega
  · have target : (Text.ofString "path").length = 4 := rfl
    have body := Text.Literal.length_le_body name
    simp only [List.length_append]
    omega

theorem length_placeholder (name : Text) : (placeholder name).length = name.length + 2 := by
  have opening : (Text.ofString "\x7b").length = 1 := rfl
  have closing : (Text.ofString "\x7d").length = 1 := rfl
  rw [placeholder, List.length_append, List.length_append]
  omega

theorem insertion_eq (name : Text) :
    insertion name = Text.ofString "$" ++ placeholder (memberAccess "path" name) := by
  rw [insertion, placeholder, ← List.append_assoc, ← List.append_assoc]
  rfl

private theorem length_insertion (name : Text) :
    (insertion name).length = (placeholder (memberAccess "path" name)).length + 1 := by
  rw [insertion_eq, List.length_append, Nat.add_comm]
  rfl

theorem length_inserted_cons_self (names : List Text) (name : Text) :
    (inserted (name :: names) name).length =
      (inserted names (memberAccess "path" name)).length + 1 := by
  rw [inserted, if_pos rfl, List.length_append, Nat.add_comm]
  rfl

/-- A placeholder never gets shorter. -/
theorem length_placeholder_le (names : List Text) (name : Text) :
    (placeholder name).length ≤ (inserted names name).length := by
  induction names generalizing name with
  | nil => exact Nat.le_refl _
  | cons first names induction =>
      by_cases same : name = first
      · have longer := length_lt_memberAccess name
        have later := induction (memberAccess "path" name)
        subst same
        rw [length_inserted_cons_self]
        rw [length_placeholder] at later ⊢
        omega
      · rw [inserted, if_neg same]
        exact induction name

private theorem inserted_of_not_mem (absent : name ∉ names) :
    inserted names name = placeholder name := by
  induction names with
  | nil => rfl
  | cons first names induction =>
      rw [List.mem_cons, not_or] at absent
      rw [inserted, if_neg absent.1, induction absent.2]

/-- An access that is no name itself is put in as it is. -/
theorem inserted_of_mem (member : name ∈ names) (last : memberAccess "path" name ∉ names) :
    inserted names name = insertion name := by
  induction names with
  | nil => exact absurd member List.not_mem_nil
  | cons first names induction =>
      rw [List.mem_cons, not_or] at last
      rw [inserted]
      by_cases same : name = first
      · rw [if_pos same, inserted_of_not_mem last.2, insertion_eq]
      · rw [if_neg same, induction ((List.mem_cons.mp member).resolve_left same) last.2]

/-- Where longer names come first, no access gives way again. -/
theorem inserted_of_pairwise
    (sorted : names.Pairwise fun first later => later.length ≤ first.length)
    (member : name ∈ names) : inserted names name = insertion name := by
  induction names with
  | nil => exact absurd member List.not_mem_nil
  | cons first names induction =>
      obtain ⟨longest, sorted⟩ := List.pairwise_cons.mp sorted
      rw [inserted]
      by_cases same : name = first
      · subst same
        have absent : memberAccess "path" name ∉ names := fun again =>
          absurd (length_lt_memberAccess name) (Nat.not_lt.mpr (longest _ again))
        rw [if_pos rfl, inserted_of_not_mem absent, insertion_eq]
      · rw [if_neg same, induction sorted ((List.mem_cons.mp member).resolve_left same)]

private theorem length_insertion_le (member : name ∈ names) :
    (insertion name).length ≤ (inserted names name).length := by
  induction names with
  | nil => exact absurd member List.not_mem_nil
  | cons first names induction =>
      by_cases same : name = first
      · subst same
        rw [length_insertion, length_inserted_cons_self]
        exact Nat.succ_le_succ (length_placeholder_le names _)
      · rw [inserted, if_neg same]
        exact induction ((List.mem_cons.mp member).resolve_left same)

/-- An access that is the name of a later argument gives way again. -/
theorem length_insertion_lt (later : memberAccess "path" name ∈ names) :
    (insertion name).length < (inserted (name :: names) name).length := by
  have again := length_insertion_le later
  have longer := length_lt_memberAccess (memberAccess "path" name)
  rw [length_insertion, length_placeholder] at again
  rw [length_inserted_cons_self, length_insertion, length_placeholder]
  omega

end

/-! ## Filled texts -/

section

variable {names others : List Text} {value other : Text → Text} {name text : Text}

private theorem filled_congr (same : ∀ name, name ∈ names ↔ name ∈ others)
    (values : ∀ name ∈ names, placeholder name <:+: text → value name = other name) :
    filled names value text = filled others other text := by
  have slots (text : Text) : slot? names text = slot? others text := by
    have contains (name : Text) : names.contains name = others.contains name := by
      simp [same]
    simp only [slot?, contains]
  induction text using filled.induct names with
  | case1 => rw [filled, filled]
  | case2 text name rest found induction =>
      obtain ⟨among, _, rfl⟩ := slot?_eq_some_iff.mp found
      rw [filled_of_some found, filled_of_some ((slots _).symm.trans found), ← placeholder_append]
        at *
      have here : placeholder name <:+: placeholder name ++ rest := (List.prefix_append _ _).isInfix
      rw [values name among here, induction fun name member occurs =>
        values name member (occurs.trans (List.suffix_append _ _).isInfix)]
  | case3 text missing induction =>
      rw [filled_of_none missing, filled_of_none ((slots _).symm.trans missing),
        induction fun name member occurs => values name member (List.infix_cons occurs)]
  | case4 c text notBracket induction =>
      rw [filled_of_ne notBracket, filled_of_ne notBracket,
        induction fun name member occurs => values name member (List.infix_cons occurs)]

private theorem length_filled_le
    (shorter : ∀ name ∈ names, (value name).length ≤ (other name).length) (text : Text) :
    (filled names value text).length ≤ (filled names other text).length := by
  induction text using filled.induct names with
  | case1 => rw [filled, filled]
  | case2 text name rest found induction =>
      have here := shorter name (slot?_eq_some_iff.mp found).1
      rw [filled_of_some found, filled_of_some found, List.length_append, List.length_append]
      exact Nat.add_le_add here induction
  | case3 text missing induction =>
      rw [filled_of_none missing, filled_of_none missing]
      exact Nat.succ_le_succ induction
  | case4 c text notBracket induction =>
      rw [filled_of_ne notBracket, filled_of_ne notBracket]
      exact Nat.succ_le_succ induction

/-- An occurrence of a placeholder starts with its bracket. -/
theorem infix_of_infix_append {start rest : Text} (plain : .char '\x7b' ∉ start)
    (occurs : placeholder name <:+: start ++ rest) : placeholder name <:+: rest := by
  induction start with
  | nil => exact occurs
  | cons c start induction =>
      rw [List.mem_cons, not_or] at plain
      rcases List.infix_cons_iff.mp occurs with ⟨after, whole⟩ | later
      · rw [placeholder_append] at whole
        exact absurd (List.cons.inj whole).1 plain.1
      · exact induction plain.2 later

private theorem length_filled_lt (plain : ∀ name ∈ names, HasNoBrackets name)
    (shorter : ∀ name ∈ names, (value name).length ≤ (other name).length) (member : name ∈ names)
    (shorterHere : (value name).length < (other name).length)
    (occurs : placeholder name <:+: text) :
    (filled names value text).length < (filled names other text).length := by
  have noCurly := (plain name member).2
  induction text using filled.induct names with
  | case1 =>
      have empty := List.infix_nil.mp occurs
      exact absurd (congrArg List.length empty)
        (by rw [length_placeholder]; exact Nat.succ_ne_zero _)
  | case2 text found rest slot induction =>
      obtain ⟨among, closed, rfl⟩ := slot?_eq_some_iff.mp slot
      have later := length_filled_le shorter rest
      rw [filled_of_some slot, filled_of_some slot, List.length_append, List.length_append]
      by_cases same : name = found
      · subst same
        exact Nat.add_lt_add_of_lt_of_le shorterHere later
      · refine Nat.add_lt_add_of_le_of_lt (shorter found among) (induction ?_)
        rcases List.infix_cons_iff.mp occurs with ⟨after, whole⟩ | inside
        · rw [placeholder_append] at whole
          exact absurd (eq_of_closed noCurly closed (List.cons.inj whole).2) same
        · have noBracket : .char '\x7b' ∉ found ++ [.char '\x7d'] := by
            rw [List.mem_append, not_or]
            exact ⟨(plain found among).1, by decide⟩
          refine infix_of_infix_append noBracket ?_
          rw [List.append_assoc]
          exact inside
  | case3 text missing induction =>
      rw [filled_of_none missing, filled_of_none missing]
      refine Nat.succ_lt_succ (induction ?_)
      rcases List.infix_cons_iff.mp occurs with ⟨after, whole⟩ | inside
      · rw [placeholder_append] at whole
        have found := slot?_eq_some_iff.mpr ⟨member, noCurly, (List.cons.inj whole).2.symm⟩
        rw [found] at missing
        cases missing
      · exact inside
  | case4 c text notBracket induction =>
      rw [filled_of_ne notBracket, filled_of_ne notBracket]
      refine Nat.succ_lt_succ (induction ?_)
      have apart : .char '\x7b' ∉ [c] := by simpa using Ne.symm notBracket
      exact infix_of_infix_append apart occurs

end

/-! ## Stable addresses -/

section

variable {endpoint : Endpoint} {arguments others : List Argument}

private theorem foldl_substituted_of_perm
    (plain : ∀ argument ∈ arguments, HasNoBrackets argument.name) (perm : others.Perm arguments)
    (text : Text) :
    others.foldl substituted text =
      filled (arguments.map (·.name)) (inserted (others.map (·.name))) text := by
  rw [foldl_substituted_eq_filled fun other member => plain other (perm.subset member)]
  exact filled_congr (fun name => (perm.map _).mem_iff) fun _ _ _ => rfl

/-- Arguments have an order in which no name comes after a shorter one. -/
theorem exists_perm_longerFirst (arguments : List Argument) :
    ∃ sorted : List Argument, sorted.Perm arguments ∧
      (sorted.map (·.name)).Pairwise fun first later => later.length ≤ first.length := by
  let isLonger (first later : Argument) : Bool := later.name.length ≤ first.name.length
  have trans (a b c : Argument) (first : isLonger a b) (second : isLonger b c) : isLonger a c := by
    simp only [isLonger, decide_eq_true_eq] at *
    omega
  have total (a b : Argument) : isLonger a b || isLonger b a := by
    simp only [isLonger, Bool.or_eq_true, decide_eq_true_eq]
    omega
  refine ⟨arguments.mergeSort isLonger, List.mergeSort_perm arguments isLonger, ?_⟩
  rw [List.pairwise_map]
  exact (List.pairwise_mergeSort trans total arguments).imp fun longer => of_decide_eq_true longer

/-- Another order, in which an argument comes before the one that its access is the name of, puts in
more than the order by lengths. -/
theorem exists_foldl_substituted_ne {argument other : Argument}
    (plain : ∀ argument ∈ arguments, HasNoBrackets argument.name) (member : argument ∈ arguments)
    {text : Text} (occurs : placeholder argument.name <:+: text) (otherMember : other ∈ arguments)
    (again : other.name = memberAccess "path" argument.name) :
    ∃ first second : List Argument, first.Perm arguments ∧ second.Perm arguments ∧
      (first.foldl substituted text).length < (second.foldl substituted text).length := by
  obtain ⟨sorted, sortedPerm, longerFirst⟩ := exists_perm_longerFirst arguments
  have frontPerm : (argument :: arguments.erase argument).Perm arguments :=
    (List.perm_cons_erase member).symm
  have inserted_sorted {name : Text} (among : name ∈ arguments.map (·.name)) :
      inserted (sorted.map (·.name)) name = insertion name :=
    inserted_of_pairwise longerFirst ((sortedPerm.map _).mem_iff.mpr among)
  have later : memberAccess "path" argument.name ∈ (arguments.erase argument).map (·.name) := by
    have different : other ≠ argument := by
      rintro rfl
      exact absurd (congrArg List.length again) (length_lt_memberAccess other.name).ne
    exact again ▸ List.mem_map_of_mem ((List.mem_erase_of_ne different).mpr otherMember)
  refine ⟨sorted, _, sortedPerm, frontPerm, ?_⟩
  rw [foldl_substituted_of_perm plain sortedPerm, foldl_substituted_of_perm plain frontPerm]
  refine length_filled_lt ?_ (fun name among => ?_) (List.mem_map_of_mem member) ?_ occurs
  · simpa using plain
  · rw [inserted_sorted among]
    exact length_insertion_le ((frontPerm.map _).mem_iff.mpr among)
  · rw [inserted_sorted (List.mem_map_of_mem member)]
    exact length_insertion_lt later

private theorem hasStableAddress_iff_of_hasNoBrackets
    (plain : ∀ argument ∈ endpoint.argumentsIn .path, HasNoBrackets argument.name) :
    endpoint.HasStableAddress ↔
      ∀ argument ∈ endpoint.argumentsIn .path,
        placeholder argument.name <:+: templateText endpoint.path →
          ∀ other ∈ endpoint.argumentsIn .path,
            other.name ≠ memberAccess "path" argument.name := by
  rw [hasStableAddress_iff_foldl]
  constructor
  · intro stable argument member occurs other otherMember again
    obtain ⟨first, second, firstPerm, secondPerm, longer⟩ :=
      exists_foldl_substituted_ne plain member occurs otherMember again
    rw [stable first firstPerm, stable second secondPerm] at longer
    exact absurd longer (Nat.lt_irrefl _)
  · intro last others perm
    rw [foldl_substituted_of_perm plain perm, foldl_substituted_of_perm plain (List.Perm.refl _)]
    refine filled_congr (fun _ => Iff.rfl) fun name among occurs => ?_
    have absent : memberAccess "path" name ∉ (endpoint.argumentsIn .path).map (·.name) := by
      obtain ⟨argument, member, rfl⟩ := List.mem_map.mp among
      intro again
      obtain ⟨other, otherMember, same⟩ := List.mem_map.mp again
      exact last argument member occurs other otherMember same
    have names := perm.map (·.name)
    rw [inserted_of_mem among absent,
      inserted_of_mem (names.mem_iff.mpr among) (mt names.mem_iff.mp absent)]

end

/-- The address does not depend on the order of the arguments if no placeholder overlaps with
another one or with what is put in for another one. If no name holds a bracket, it does not
exactly if no access that is put in is itself the name of an argument. -/
theorem hasStableAddress_cases (endpoint : Endpoint) :
    ((∀ argument ∈ endpoint.argumentsIn .path, ∀ other ∈ endpoint.argumentsIn .path,
        argument.name ≠ other.name → AreApart argument.name other.name) →
      endpoint.HasStableAddress) ∧
    ((∀ argument ∈ endpoint.argumentsIn .path, HasNoBrackets argument.name) →
      (endpoint.HasStableAddress ↔
        ∀ argument ∈ endpoint.argumentsIn .path,
          placeholder argument.name <:+: templateText endpoint.path →
            ∀ other ∈ endpoint.argumentsIn .path,
              other.name ≠ memberAccess "path" argument.name)) :=
  ⟨hasStableAddress_of_areApart, hasStableAddress_iff_of_hasNoBrackets⟩

/-- A name with a bracket in it, and another one. -/
def bracketedName : Endpoint where
  operationId := "a"
  method := "get"
  path := "/\x7ba\x7bb\x7d/\x7bc\x7d"
  tags := []
  arguments := [⟨"a\x7bb", .path, true, "string", none⟩, ⟨"c", .path, true, "string", none⟩]

/-- A name that is the access to another one, which has no place in the path. -/
def unusedAccess : Endpoint where
  operationId := "a"
  method := "get"
  path := "/\x7bpath.a\x7d"
  tags := []
  arguments := [⟨"a", .path, true, "string", none⟩, ⟨"path.a", .path, true, "string", none⟩]

theorem hasStableAddress_unusedAccess :
    (AreApart "a\x7bb" "c" ∧ AreApart "c" "a\x7bb" ∧ bracketedName.HasStableAddress) ∧
      (∀ argument ∈ unusedAccess.argumentsIn .path, HasNoBrackets argument.name) ∧
        unusedAccess.HasStableAddress := by
  have apart : AreApart "a\x7bb" "c" := ⟨by decide, by decide, by decide⟩
  have otherApart : AreApart "c" "a\x7bb" := ⟨by decide, by decide, by decide⟩
  have plain : ∀ argument ∈ unusedAccess.argumentsIn .path, HasNoBrackets argument.name := by decide
  refine ⟨⟨apart, otherApart, (hasStableAddress_cases bracketedName).1 ?_⟩, plain,
    ((hasStableAddress_cases unusedAccess).2 plain).mpr ?_⟩
  · have arguments : bracketedName.argumentsIn .path = bracketedName.arguments := rfl
    rw [arguments]
    simp [bracketedName, apart, otherApart]
  · have text : templateText unusedAccess.path = unusedAccess.path := by cbv
    rw [text]
    decide

/-- A path for two arguments, one of which has the name of the access to the other one. -/
def nestedAccess : Endpoint where
  operationId := "a"
  method := "get"
  path := "/\x7ba\x7d/\x7bpath.a\x7d"
  tags := []
  arguments := [⟨"a", .path, true, "string", none⟩, ⟨"path.a", .path, true, "string", none⟩]

/-- The first argument gives way to an access, which gives way to that for the second one. -/
theorem urlExpression_nestedAccess :
    nestedAccess.urlExpression = "\x60/$$\x7bpath['path.a']\x7d/$\x7bpath['path.a']\x7d\x60" ∧
      urlExpression { nestedAccess with arguments := nestedAccess.arguments.reverse } =
        "\x60/$\x7bpath.a\x7d/$\x7bpath['path.a']\x7d\x60" ∧
      ¬nestedAccess.HasStableAddress := by
  have given : nestedAccess.urlExpression =
      "\x60/$$\x7bpath['path.a']\x7d/$\x7bpath['path.a']\x7d\x60" := by cbv
  have reversed : urlExpression { nestedAccess with arguments := nestedAccess.arguments.reverse } =
      "\x60/$\x7bpath.a\x7d/$\x7bpath['path.a']\x7d\x60" := by cbv
  refine ⟨given, reversed, fun stable => ?_⟩
  have same := stable _ (List.reverse_perm nestedAccess.arguments)
  rw [given, reversed] at same
  exact absurd same (by decide)

end Endpoint

end ApiClient
