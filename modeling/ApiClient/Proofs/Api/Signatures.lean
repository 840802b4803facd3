import ApiClient.Api.Method
import ApiClient.Proofs.Api.Collection

/-! The groups of input of a method. The signature declares them twice, by the names that
its argument is taken apart into and by the members of its type, and the statements read
them. The signature and the statements each find out for themselves which groups there are
and which may be left out. -/

namespace ApiClient

/-! ## Kinds of input -/

/-- The kinds of input, in the order in which a signature declares them. -/
inductive InputKind where
  | query
  | body
  | path
  | header
  deriving DecidableEq, Repr

namespace InputKind

def all : List InputKind :=
  [.query, .body, .path, .header]

def name : InputKind → Text
  | .query => "query"
  | .body => "body"
  | .path => "path"
  | .header => "header"

private theorem mem_all (kind : InputKind) : kind ∈ all := by
  cases kind <;> decide

end InputKind

namespace Endpoint

/-- All arguments travel in places that take part in a request. -/
def HasKnownPlaces (endpoint : Endpoint) : Prop :=
  ∀ argument ∈ endpoint.arguments, argument.place ∈ [Place.query, Place.path, Place.header]

instance (endpoint : Endpoint) : Decidable endpoint.HasKnownPlaces :=
  inferInstanceAs (Decidable (∀ argument ∈ endpoint.arguments, _))

/-- There is input of a kind. -/
def Takes (endpoint : Endpoint) : InputKind → Prop
  | .query => ∃ argument ∈ endpoint.arguments, argument.place = .query
  | .body => endpoint.bodyType.isSome
  | .path => ∃ argument ∈ endpoint.arguments, argument.place = .path
  | .header => ∃ argument ∈ endpoint.arguments, argument.place = .header

/-- The input of a kind may be left out as a whole. -/
def MayLack (endpoint : Endpoint) : InputKind → Prop
  | .query => ∀ argument ∈ endpoint.arguments, argument.place = .query → argument.required = false
  | .header => ∀ argument ∈ endpoint.arguments, argument.place = .header → argument.required = false
  | .body | .path => False

instance (endpoint : Endpoint) : DecidablePred endpoint.Takes
  | .query | .path | .header => inferInstanceAs (Decidable (∃ argument ∈ endpoint.arguments, _))
  | .body => inferInstanceAs (Decidable (endpoint.bodyType.isSome = true))

instance (endpoint : Endpoint) : DecidablePred endpoint.MayLack
  | .query | .header => inferInstanceAs (Decidable (∀ argument ∈ endpoint.arguments, _))
  | .body | .path => inferInstanceAs (Decidable False)

/-- The kinds of input that a method takes. -/
def kinds (endpoint : Endpoint) : List InputKind :=
  InputKind.all.filter endpoint.Takes

end Endpoint

/-! ## Layouts -/

/-- A signature is on one line, or has one line for each of its parts. -/
inductive Layout where
  | inline
  | block
  deriving DecidableEq, Repr

namespace Layout

/-- Names that an object is taken apart into. -/
def pattern : Layout → List Text → Text
  | .inline, names => "\x7b " ++ joined ", " names ++ " \x7d"
  | .block, names => "\x7b\n" ++ indented (lines (names.map (· ++ ","))) ++ "\n\x7d"

/-- The type of an object with these members. -/
def record : Layout → List Text → Text
  | .inline, members => "\x7b " ++ joined "; " members ++ " \x7d"
  | .block, members => "\x7b\n" ++ indented (lines (members.map (· ++ ";"))) ++ "\n\x7d"

end Layout

namespace Endpoint

section

variable (endpoint : Endpoint) (layout : Layout)

def recordOf (place : Place) : Text :=
  layout.record <| (endpoint.argumentsIn place).map fun argument =>
    memberNamed (propertyKey argument.name) argument.required ++ ": " ++ argument.type

/-- The type of the input of a kind. -/
def inputType : InputKind → Text
  | .query => endpoint.recordOf layout .query
  | .body => endpoint.bodyType.getD []
  | .path => endpoint.recordOf layout .path
  | .header => endpoint.recordOf layout .header

/-- A kind of input as a member of the type of the argument, which has a mark if it may be left
out. -/
def inputMember (kind : InputKind) : Text :=
  kind.name ++ (if endpoint.MayLack kind then "?" else "") ++ ": " ++ endpoint.inputType layout kind

/-- The argument of a method with its type. It has a default if all of its members may be left
out. -/
def argumentText : Text :=
  layout.pattern (endpoint.kinds.map (·.name)) ++ ": " ++
    layout.record (endpoint.kinds.map (endpoint.inputMember layout)) ++
      if ∀ kind ∈ endpoint.kinds, endpoint.MayLack kind then " = \x7b\x7d" else ""

end

/-! ## Groups -/

section

variable {endpoint : Endpoint}

/-- The group for the input of a kind. -/
def group (endpoint : Endpoint) (kind : InputKind) : InputGroup where
  name := kind.name
  required := !endpoint.MayLack kind
  content :=
    match kind with
    | .query => .members (endpoint.argumentsIn .query)
    | .body => .whole (endpoint.bodyType.getD [])
    | .path => .members (endpoint.argumentsIn .path)
    | .header => .members (endpoint.argumentsIn .header)

theorem argumentsIn_eq_nil_iff {place : Place} :
    endpoint.argumentsIn place = [] ↔ ¬∃ argument ∈ endpoint.arguments, argument.place = place := by
  simp [argumentsIn, List.filter_eq_nil_iff]

private theorem any_required_argumentsIn {place : Place} :
    (endpoint.argumentsIn place).any (·.required) =
      !decide (∀ argument ∈ endpoint.arguments,
        argument.place = place → argument.required = false) := by
  rw [Bool.eq_iff_iff]
  simp [argumentsIn]

private theorem placeGroup_eq (place : Place) (isOptional : Bool) :
    endpoint.placeGroup place isOptional =
      if ∃ argument ∈ endpoint.arguments, argument.place = place then
        [⟨place.name, !isOptional || (endpoint.argumentsIn place).any (·.required),
          .members (endpoint.argumentsIn place)⟩]
      else [] := by
  rw [placeGroup]
  split
  · rename_i empty
    rw [if_neg (argumentsIn_eq_nil_iff.mp empty)]
  · rename_i nonempty
    rw [if_pos (not_not.mp (mt argumentsIn_eq_nil_iff.mpr nonempty))]

private theorem bodyGroup_eq :
    endpoint.bodyGroup = if endpoint.Takes .body then [endpoint.group .body] else [] := by
  rw [bodyGroup]
  have alone : endpoint.group .body = ⟨"body", true, .whole (endpoint.bodyType.getD [])⟩ := rfl
  rw [alone]
  cases given : endpoint.bodyType <;> simp [Takes, given]

/-- The groups of a signature are those for the kinds of input that the method takes. -/
theorem inputGroups_eq : endpoint.inputGroups = endpoint.kinds.map endpoint.group := by
  have query : endpoint.placeGroup .query true =
      if endpoint.Takes .query then [endpoint.group .query] else [] := by
    rw [placeGroup_eq, any_required_argumentsIn]
    rfl
  have path : endpoint.placeGroup .path false =
      if endpoint.Takes .path then [endpoint.group .path] else [] := placeGroup_eq .path false
  have header : endpoint.placeGroup .header true =
      if endpoint.Takes .header then [endpoint.group .header] else [] := by
    rw [placeGroup_eq, any_required_argumentsIn]
    rfl
  have filtered (kinds : List InputKind) : (kinds.filter endpoint.Takes).map endpoint.group =
      kinds.flatMap fun kind => if endpoint.Takes kind then [endpoint.group kind] else [] := by
    induction kinds with
    | nil => rfl
    | cons kind rest induction =>
        by_cases takes : endpoint.Takes kind <;> simp [takes, induction]
  rw [inputGroups, query, path, header, bodyGroup_eq, kinds, filtered]
  simp [InputKind.all]

/-! ## Signatures -/

private theorem memberNamed_group (kind : InputKind) :
    memberNamed (endpoint.group kind).name (endpoint.group kind).required =
      kind.name ++ if endpoint.MayLack kind then "?" else "" := by
  change memberNamed kind.name (!decide (endpoint.MayLack kind)) = _
  by_cases lacks : endpoint.MayLack kind
  · rw [decide_eq_true lacks, if_pos lacks]
    rfl
  · rw [decide_eq_false lacks, if_neg lacks]
    exact (List.append_nil _).symm

private theorem inlineType_group (kind : InputKind) :
    (endpoint.group kind).inlineType = endpoint.inputType .inline kind := by
  cases kind <;> rfl

private theorem blockType_group (kind : InputKind) :
    (endpoint.group kind).blockType = endpoint.inputType .block kind := by
  cases kind <;> simp [InputGroup.blockType, group, inputType, recordOf, Layout.record,
    InputGroup.memberText, Function.comp_def]

private theorem argumentFallback_eq :
    argumentFallback (endpoint.kinds.map endpoint.group) =
      if ∀ kind ∈ endpoint.kinds, endpoint.MayLack kind then " = \x7b\x7d" else "" := by
  have required : (endpoint.kinds.map endpoint.group).any (·.required) =
      !decide (∀ kind ∈ endpoint.kinds, endpoint.MayLack kind) := by
    rw [Bool.eq_iff_iff]
    simp [group]
  rw [argumentFallback, required]
  by_cases all : ∀ kind ∈ endpoint.kinds, endpoint.MayLack kind
  · rw [decide_eq_true all, if_pos all]
    rfl
  · rw [decide_eq_false all, if_neg all]
    rfl

private theorem inlineSignature_eq (name : Text) :
    inlineSignature name endpoint.inputGroups =
      "static " ++ name ++ "(" ++ endpoint.argumentText .inline ++ ")" := by
  have members : (endpoint.kinds.map endpoint.group).map (fun group =>
      memberNamed group.name group.required ++ ": " ++ group.inlineType) =
      endpoint.kinds.map (endpoint.inputMember .inline) := by
    simp only [List.map_map, Function.comp_def, memberNamed_group, inlineType_group]
    rfl
  have names : (endpoint.kinds.map endpoint.group).map (·.name) = endpoint.kinds.map (·.name) :=
    List.map_map
  have opening : Text.ofString "(\x7b " = Text.ofString "(" ++ Text.ofString "\x7b " := rfl
  have between : Text.ofString " \x7d: \x7b " =
      Text.ofString " \x7d" ++ Text.ofString ": " ++ Text.ofString "\x7b " := rfl
  rw [inputGroups_eq, inlineSignature, argumentFallback_eq, members, names, opening, between]
  simp only [argumentText, Layout.pattern, Layout.record, List.append_assoc]

private theorem blockSignature_eq (name : Text) :
    blockSignature name endpoint.inputGroups =
      "static " ++ name ++ "(" ++ endpoint.argumentText .block ++ ")" := by
  have members : (endpoint.kinds.map endpoint.group).map (fun group =>
      memberNamed group.name group.required ++ ": " ++ group.blockType ++ ";") =
      (endpoint.kinds.map (endpoint.inputMember .block)).map (· ++ Text.ofString ";") := by
    simp only [List.map_map, Function.comp_def, memberNamed_group, blockType_group]
    rfl
  have names : (endpoint.kinds.map endpoint.group).map (·.name ++ Text.ofString ",") =
      (endpoint.kinds.map (·.name)).map (· ++ Text.ofString ",") := by
    simp only [List.map_map, Function.comp_def]
    rfl
  have opening : Text.ofString "(\x7b\n" = Text.ofString "(" ++ Text.ofString "\x7b\n" := rfl
  have between : Text.ofString "\n\x7d: \x7b\n" =
      Text.ofString "\n\x7d" ++ Text.ofString ": " ++ Text.ofString "\x7b\n" := rfl
  rw [inputGroups_eq, blockSignature, argumentFallback_eq, members, names, opening, between]
  simp only [argumentText, Layout.pattern, Layout.record, List.append_assoc]

theorem mem_kinds (kind : InputKind) : kind ∈ endpoint.kinds ↔ endpoint.Takes kind := by
  rw [kinds, List.mem_filter, decide_eq_true_iff, and_iff_right kind.mem_all]

private theorem kinds_eq_nil_iff : endpoint.kinds = [] ↔ ∀ kind, ¬endpoint.Takes kind := by
  simp only [List.eq_nil_iff_forall_not_mem, mem_kinds]

/-- A method has an argument exactly if it takes input of some kind. -/
theorem takesInput_iff (known : endpoint.HasKnownPlaces) :
    endpoint.takesInput ↔ endpoint.kinds ≠ [] := by
  rw [ne_eq, kinds_eq_nil_iff, takesInput]
  constructor
  · intro takes none
    rcases Bool.or_eq_true_iff.mp takes with some | body
    · cases given : endpoint.arguments with
      | nil => simp [given] at some
      | cons argument others =>
          have member : argument ∈ endpoint.arguments := given ▸ List.mem_cons_self
          have place := known argument member
          simp only [List.mem_cons, List.not_mem_nil, or_false] at place
          rcases place with query | path | header
          · exact none .query ⟨argument, member, query⟩
          · exact none .path ⟨argument, member, path⟩
          · exact none .header ⟨argument, member, header⟩
    · exact none .body body
  · intro some
    obtain ⟨kind, takes⟩ := not_forall_not.mp some
    cases kind with
    | body => exact Bool.or_eq_true_iff.mpr (.inr takes)
    | query | path | header =>
        obtain ⟨argument, member, _⟩ := takes
        have nonempty := List.ne_nil_of_mem member
        simp [nonempty]

private theorem signature_of_kinds_eq_nil (known : endpoint.HasKnownPlaces)
    (none : endpoint.kinds = []) :
    endpoint.signature = "static " ++ endpoint.operationId ++ "()" := by
  rw [signature, if_neg fun takes => (takesInput_iff known).mp takes none]

private theorem not_default_suffix (name : Text) :
    ¬Text.ofString " = \x7b\x7d)" <:+ Text.ofString "static " ++ name ++ "()" := by
  rintro ⟨start, whole⟩
  have split : (start ++ Text.ofString " = \x7b") ++ Text.ofString "\x7d)" =
      Text.ofString "static " ++ name ++ "()" := by
    rw [List.append_assoc]
    exact whole
  exact absurd (List.append_inj' split rfl).2 (by decide)

private theorem signature_of_kinds_ne_nil (known : endpoint.HasKnownPlaces)
    (some : endpoint.kinds ≠ []) :
    ∃ layout, endpoint.signature =
      "static " ++ endpoint.operationId ++ "(" ++ endpoint.argumentText layout ++ ")" := by
  rw [signature, if_pos ((takesInput_iff known).mpr some)]
  dsimp only
  split
  · exact ⟨.inline, inlineSignature_eq _⟩
  · exact ⟨.block, blockSignature_eq _⟩

/-- A type ends before its closing bracket with what is no bracket. -/
theorem exists_record_eq (layout : Layout) (members : List Text) :
    ∃ (before : Text) (c : CodePoint),
      layout.record members = before ++ [c, .char '\x7d'] ∧ c ≠ '\x7b' := by
  cases layout with
  | inline => exact ⟨_, .char ' ', rfl, by decide⟩
  | block => exact ⟨_, .char '\n', rfl, by decide⟩

private theorem argumentText_ne_nil (layout : Layout) : endpoint.argumentText layout ≠ [] := by
  cases layout <;> exact List.cons_ne_nil _ _

private theorem default_suffix_iff (layout : Layout) (opening : Text) :
    Text.ofString " = \x7b\x7d)" <:+ opening ++ endpoint.argumentText layout ++ ")" ↔
      ∀ kind ∈ endpoint.kinds, endpoint.MayLack kind := by
  rw [argumentText]
  constructor
  · intro ends
    by_contra required
    rw [if_neg required] at ends
    obtain ⟨before, c, same, noBracket⟩ :=
      exists_record_eq layout (endpoint.kinds.map (endpoint.inputMember layout))
    obtain ⟨start, whole⟩ := ends
    rw [same] at whole
    have split : (start ++ Text.ofString " = ") ++ Text.ofString "\x7b\x7d)" =
        (opening ++ (layout.pattern (endpoint.kinds.map (·.name)) ++ ": ") ++ before) ++
          [c, .char '\x7d', .char ')'] := by
      rw [List.append_assoc]
      have closing : Text.ofString "" ++ Text.ofString ")" = [CodePoint.char ')'] := rfl
      refine whole.trans ?_
      rw [← List.append_assoc opening, List.append_assoc _ (Text.ofString ""), closing]
      simp only [List.append_assoc, List.cons_append, List.nil_append]
    have last := (List.append_inj' split rfl).2
    exact noBracket (List.cons.inj last).1.symm
  · intro optional
    rw [if_pos optional]
    have closing : Text.ofString " = \x7b\x7d)" =
        Text.ofString " = \x7b\x7d" ++ Text.ofString ")" := rfl
    rw [closing, ← List.append_assoc, ← List.append_assoc, List.append_assoc]
    exact List.suffix_append _ _

/-! ## Statements -/

private theorem argumentsIn_ne_nil_iff {place : Place} :
    endpoint.argumentsIn place ≠ [] ↔ ∃ argument ∈ endpoint.arguments, argument.place = place := by
  rw [ne_eq, argumentsIn_eq_nil_iff, not_not]

private theorem requestOptions_eq :
    endpoint.requestOptions =
      [Text.ofString "url: " ++ endpoint.urlExpression ++ ",",
        Text.ofString "method: " ++ quoted endpoint.method ++ ","] ++
        (if .query ∈ endpoint.kinds then [Text.ofString "params: query,"] else []) ++
          if .body ∈ endpoint.kinds then [Text.ofString "data: body,"] else [] := by
  have query : (endpoint.argumentsIn .query).isEmpty ↔ .query ∉ endpoint.kinds := by
    rw [List.isEmpty_iff, mem_kinds]
    exact argumentsIn_eq_nil_iff
  have body : endpoint.bodyType.isSome ↔ .body ∈ endpoint.kinds := (mem_kinds .body).symm
  simp only [requestOptions, query, body, ite_not]

private theorem urlExpression_of_not_mem (absent : .path ∉ endpoint.kinds) :
    endpoint.urlExpression = quoted endpoint.path := by
  have none : endpoint.argumentsIn .path = [] :=
    argumentsIn_eq_nil_iff.mpr (mt (mem_kinds .path).mpr absent)
  rw [urlExpression, none]

theorem headerAccess_eq (name : Text) (isOptional : Bool) :
    headerAccess name isOptional =
      Text.ofString "header" ++
        (if isOptional then "?." else if isIdentifier name then "." else "") ++
        if isIdentifier name then name else "[" ++ quoted name ++ "]" := by
  cases isOptional <;> by_cases identifier : isIdentifier name <;>
    simp only [headerAccess, memberAccess, identifier, if_true, Bool.not_true, Bool.not_false] <;>
      rfl

theorem header_prefix_headerAccess (name : Text) (isOptional : Bool) :
    Text.ofString "header" <+: headerAccess name isOptional := by
  rw [headerAccess_eq, List.append_assoc]
  exact List.prefix_append _ _

private theorem mark_prefix_headerAccess_iff (name : Text) (isOptional : Bool) :
    Text.ofString "header?." <+: headerAccess name isOptional ↔ isOptional := by
  have opening : Text.ofString "header?." = Text.ofString "header" ++ Text.ofString "?." := rfl
  rw [headerAccess_eq, opening, List.append_assoc, List.prefix_append_right_inj]
  cases isOptional with
  | true => exact iff_of_true (List.prefix_append _ _) rfl
  | false =>
      refine iff_of_false (fun begins => ?_) Bool.false_ne_true
      rw [if_neg Bool.false_ne_true] at begins
      by_cases identifier : isIdentifier name
      · rw [if_pos identifier, if_pos identifier] at begins
        exact absurd (List.cons_prefix_cons.mp begins).1 (by decide)
      · rw [if_neg identifier, if_neg identifier] at begins
        exact absurd (List.cons_prefix_cons.mp begins).1 (by decide)

private theorem not_header_prefix_quoted (text : Text) :
    ¬Text.ofString "header" <+: quoted text := by
  intro begins
  exact absurd (List.cons_prefix_cons.mp begins).1 (by decide)

theorem headerEntries_eq :
    endpoint.headerEntries =
      (endpoint.contentType.toList.map fun type => (Text.ofString "Content-Type", quoted type)) ++
        (endpoint.argumentsIn .header).map fun argument =>
          (argument.name, headerAccess argument.name (endpoint.MayLack .header)) := by
  rw [headerEntries, any_required_argumentsIn, Bool.not_not]
  rfl

/-- The values that are taken from the group of headers are those of the header arguments. -/
theorem mem_headerEntries_iff {entry : Text × Text} (reads : Text.ofString "header" <+: entry.2) :
    entry ∈ endpoint.headerEntries ↔
      ∃ argument ∈ endpoint.argumentsIn .header,
        entry = (argument.name, headerAccess argument.name (endpoint.MayLack .header)) := by
  rw [headerEntries_eq, List.mem_append, List.mem_map, List.mem_map]
  constructor
  · rintro (⟨type, _, rfl⟩ | ⟨argument, member, rfl⟩)
    · exact absurd reads (not_header_prefix_quoted type)
    · exact ⟨argument, member, rfl⟩
  · rintro ⟨argument, member, rfl⟩
    exact .inr ⟨argument, member, rfl⟩

/-! ## Agreement -/

/-- The signature and the statements of a method go by the same groups. -/
structure IsConsistent (endpoint : Endpoint) : Prop where
  text : ∃ above, endpoint.methodText =
    above ++ endpoint.signature ++ " \x7b\n" ++
      indented (lines
        (objectCall "const request = new Request" endpoint.requestOptions ++
          (if endpoint.headerEntries = [] then []
            else objectCall "request.headers"
              (endpoint.headerEntries.map fun entry => quoted entry.1 ++ ": " ++ entry.2 ++ ",")) ++
          [Text.ofString "return request;"])) ++
      "\n\x7d"
  /-- The names and the members of both layouts are those of the kinds of input, in their order. -/
  inline : inlineSignature endpoint.operationId endpoint.inputGroups =
    "static " ++ endpoint.operationId ++ "(" ++ endpoint.argumentText .inline ++ ")"
  block : blockSignature endpoint.operationId endpoint.inputGroups =
    "static " ++ endpoint.operationId ++ "(" ++ endpoint.argumentText .block ++ ")"
  argument : endpoint.kinds ≠ [] → ∃ layout, endpoint.signature =
    "static " ++ endpoint.operationId ++ "(" ++ endpoint.argumentText layout ++ ")"
  noArgument : endpoint.signature = "static " ++ endpoint.operationId ++ "()" ↔ endpoint.kinds = []
  default : Text.ofString " = \x7b\x7d)" <:+ endpoint.signature ↔
    endpoint.kinds ≠ [] ∧ ∀ kind ∈ endpoint.kinds, endpoint.MayLack kind
  options : endpoint.requestOptions =
    [Text.ofString "url: " ++ endpoint.urlExpression ++ ",",
      Text.ofString "method: " ++ quoted endpoint.method ++ ","] ++
      (if .query ∈ endpoint.kinds then [Text.ofString "params: query,"] else []) ++
        if .body ∈ endpoint.kinds then [Text.ofString "data: body,"] else []
  address : .path ∉ endpoint.kinds → endpoint.urlExpression = quoted endpoint.path
  headers : (∃ entry ∈ endpoint.headerEntries, Text.ofString "header" <+: entry.2) ↔
    .header ∈ endpoint.kinds
  headerMark : ∀ entry ∈ endpoint.headerEntries, Text.ofString "header" <+: entry.2 →
    (Text.ofString "header?." <+: entry.2 ↔ endpoint.MayLack .header)

theorem exists_methodText_eq : ∃ above, endpoint.methodText =
    above ++
      (endpoint.signature ++ " \x7b\n" ++ indented (lines endpoint.statements) ++ "\n\x7d") := by
  rw [methodText]
  cases endpoint.comment with
  | none => exact ⟨[], rfl⟩
  | some comment => exact ⟨comment ++ "\n", rfl⟩

private theorem isConsistent_of_hasKnownPlaces (known : endpoint.HasKnownPlaces) :
    endpoint.IsConsistent where
  text := by
    obtain ⟨above, whole⟩ := endpoint.exists_methodText_eq
    refine ⟨above, whole.trans ?_⟩
    simp only [statements, List.isEmpty_iff, List.map_eq_nil_iff, List.append_assoc]
  inline := inlineSignature_eq _
  block := blockSignature_eq _
  argument := signature_of_kinds_ne_nil known
  noArgument := by
    refine ⟨fun bare => ?_, signature_of_kinds_eq_nil known⟩
    by_contra some
    obtain ⟨layout, signature⟩ := signature_of_kinds_ne_nil known some
    have opening : Text.ofString "()" = Text.ofString "(" ++ Text.ofString ")" := rfl
    rw [bare, opening, ← List.append_assoc, List.append_left_inj] at signature
    exact argumentText_ne_nil layout (List.self_eq_append_right.mp signature)
  default := by
    by_cases none : endpoint.kinds = []
    · rw [signature_of_kinds_eq_nil known none]
      exact iff_of_false (not_default_suffix _) fun default => default.1 none
    · obtain ⟨layout, signature⟩ := signature_of_kinds_ne_nil known none
      rw [signature, default_suffix_iff, and_iff_right none]
  options := requestOptions_eq
  address := urlExpression_of_not_mem
  headers := by
    rw [mem_kinds]
    constructor
    · rintro ⟨entry, member, reads⟩
      obtain ⟨argument, inHeader, _⟩ := (mem_headerEntries_iff reads).mp member
      exact argumentsIn_ne_nil_iff.mp (List.ne_nil_of_mem inHeader)
    · intro takes
      obtain ⟨argument, inHeader⟩ := List.exists_mem_of_ne_nil _ (argumentsIn_ne_nil_iff.mpr takes)
      have reads := header_prefix_headerAccess argument.name (endpoint.MayLack .header)
      exact ⟨_, (mem_headerEntries_iff reads).mpr ⟨argument, inHeader, rfl⟩, reads⟩
  headerMark := by
    intro entry member reads
    obtain ⟨argument, _, rfl⟩ := (mem_headerEntries_iff reads).mp member
    rw [mark_prefix_headerAccess_iff, decide_eq_true_iff]

end

end Endpoint

/-! ## Endpoints of documents -/

private theorem Parameter.Gives.place_mem {space : Option Text} {parameter : Parameter}
    {argument : Argument} (gives : parameter.Gives space argument)
    (takes : parameter.takesPart space) :
    argument.place ∈ [Place.query, Place.path, Place.header] := by
  have known : knownLocations.contains parameter.location := (Bool.and_eq_true_iff.mp takes).1
  cases place : argument.place with
  | query | path | header => decide
  | other name =>
      have unknown := (named_eq_other_iff _).mp ⟨name, gives.place.symm.trans place⟩
      exact absurd known (Bool.eq_false_iff.mp unknown)

private theorem PlacedOperation.Yields.hasKnownPlaces {document : Document} {space : Option Text}
    {placed : PlacedOperation} {endpoint : Endpoint}
    (yields : placed.Yields document space endpoint) :
    endpoint.HasKnownPlaces := by
  obtain ⟨own, inherited, _, _, given⟩ := yields.arguments
  refine forall_mem_right_of_forall₂ given fun parameter member argument gives => ?_
  exact gives.place_mem (List.mem_filter.mp member).2

private theorem Document.hasKnownPlaces_of_mem_endpoints {document : Document} {space : Option Text}
    {endpoints : List Endpoint} (succeeds : (document.endpoints space).outcome = .ok endpoints) :
    ∀ endpoint ∈ endpoints, endpoint.HasKnownPlaces := by
  rw [Document.endpoints, outcome_endpointsOf] at succeeds
  refine forall_mem_right_of_forall₂ (mapM_eq_ok_iff.mp succeeds) fun placed _ endpoint found => ?_
  exact (PlacedOperation.yields_of_endpoint found).hasKnownPlaces

/-- In the endpoints of a document all arguments travel in known places, and where they do, the
signature of a method declares the groups that its statements use, with the same marks. -/
theorem isConsistent_method :
    (∀ (document : Document) (space : Option Text) (endpoints : List Endpoint),
      (document.endpoints space).outcome = .ok endpoints →
        ∀ endpoint ∈ endpoints, endpoint.HasKnownPlaces) ∧
    ∀ endpoint : Endpoint, endpoint.HasKnownPlaces → endpoint.IsConsistent :=
  ⟨fun _ _ _ => Document.hasKnownPlaces_of_mem_endpoints,
    fun _ => Endpoint.isConsistent_of_hasKnownPlaces⟩

def wholeNumbers : Node :=
  .inline { kind := some .integer } none none

/-- A list with an optional limit, an optional header and a cookie. -/
def pagedItems : Document where
  paths := some [("/items", {
    parameters := some [
      .direct { name := "limit", location := "query", schema := some wholeNumbers },
      .direct { name := "X-Id", location := "header", schema := some wholeNumbers },
      .direct { name := "session", location := "cookie", schema := some wholeNumbers }]
    operations := [("get", { operationId := some "list", tags := some ["items"] })] })]

theorem isConsistent_pagedItems : ∃ endpoint : Endpoint,
    (pagedItems.endpoints none).outcome = .ok [endpoint] ∧ endpoint.HasKnownPlaces ∧
      endpoint.kinds = [.query, .header] ∧
      Text.ofString " = \x7b\x7d)" <:+ endpoint.signature ∧
      ∃ entry ∈ endpoint.headerEntries, Text.ofString "header?." <+: entry.2 := by
  refine ⟨_, rfl, ?_⟩
  have known := isConsistent_method.1 pagedItems none _ rfl _ List.mem_cons_self
  have consistent := isConsistent_method.2 _ known
  refine ⟨known, by decide, consistent.default.mpr (by decide), ?_⟩
  obtain ⟨entry, member, reads⟩ := consistent.headers.mpr (by decide)
  exact ⟨entry, member, (consistent.headerMark entry member reads).mpr (by decide)⟩

end ApiClient
