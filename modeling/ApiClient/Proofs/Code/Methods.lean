import ApiClient.Proofs.Code.Templates
import ApiClient.Proofs.Code.Types

/-! Methods with and without descriptions. The signature holds the types of the input and is set
out by its length, but a comment in it makes it too long for one line whatever the comment says.
The statements do not depend on the types at all. -/

namespace ApiClient.Code

structure AlikeArguments (left right : Argument) : Prop where
  name : left.name = right.name
  place : left.place = right.place
  required : left.required = right.required
  type : AlikeTypes left.type right.type

structure AlikeEndpoints (left right : Endpoint) : Prop where
  operationId : left.operationId = right.operationId
  method : left.method = right.method
  path : left.path = right.path
  tags : left.tags = right.tags
  arguments : List.Forall₂ AlikeArguments left.arguments right.arguments
  bodyType : Option.Rel AlikeTypes left.bodyType right.bodyType
  contentType : left.contentType = right.contentType
  summary : redactedText left.summary = redactedText right.summary
  deprecated : left.deprecated = right.deprecated

/-- The names of an endpoint that stand in code as they are. -/
structure Endpoint.HasPlainNames (endpoint : Endpoint) : Prop where
  operationId : isIdentifier endpoint.operationId
  pathArguments : ∀ argument ∈ endpoint.argumentsIn .path, isIdentifier argument.name

/-! ## Groups of input -/

inductive AlikeContents : GroupContent → GroupContent → Prop where
  | whole {left right : Text} (types : AlikeTypes left right) :
      AlikeContents (.whole left) (.whole right)
  | members {left right : List Argument} (arguments : List.Forall₂ AlikeArguments left right) :
      AlikeContents (.members left) (.members right)

structure AlikeGroups (left right : InputGroup) : Prop where
  plain : IsPlain left.name
  name : left.name = right.name
  required : left.required = right.required
  content : AlikeContents left.content right.content

theorem balanced_memberNamed {name : Text} (balanced : Balanced name) (required : Bool) :
    Balanced (memberNamed name required) := by
  unfold memberNamed
  split
  · exact balanced
  · exact balanced.append fun _ => rfl

private theorem similar_memberText {left right : Argument} (alike : AlikeArguments left right) :
    Similar (InputGroup.memberText left) (InputGroup.memberText right) := by
  have key : Balanced (memberNamed (propertyKey right.name) right.required ++ ": ") :=
    (balanced_memberNamed (balanced_propertyKey right.name) right.required).append fun _ => rfl
  unfold InputGroup.memberText
  rw [alike.name, alike.required]
  exact Alike.reads_append key alike.type.similar

private theorem similar_inlineType {left right : InputGroup} (alike : AlikeGroups left right) :
    Similar left.inlineType right.inlineType := by
  obtain ⟨_, _, left⟩ := left
  obtain ⟨_, _, right⟩ := right
  cases alike.content with
  | whole types => exact types.similar
  | members arguments =>
      have members := List.rel_map (fun _ _ argument => similar_memberText argument) arguments
      exact (similar_joined (fun _ => rfl) members).enclosed (fun _ => rfl) (fun _ => rfl)

private theorem similar_blockType {left right : InputGroup} (alike : AlikeGroups left right) :
    Similar left.blockType right.blockType := by
  obtain ⟨_, _, left⟩ := left
  obtain ⟨_, _, right⟩ := right
  cases alike.content with
  | whole types => exact types.similar
  | @members left right arguments =>
      have semicolon : Balanced ";" := fun _ => rfl
      have members : List.Forall₂ Similar (left.map (InputGroup.memberText · ++ ";"))
          (right.map (InputGroup.memberText · ++ ";")) := by
        refine List.rel_map (fun argument other same => ?_) arguments
        exact (similar_memberText same).append_reads semicolon
      exact (similar_indented (similar_lines members)).enclosed (fun _ => rfl) (fun _ => rfl)

section

variable {left right : Endpoint} (alike : AlikeEndpoints left right)

include alike

theorem alike_argumentsIn (place : Place) :
    List.Forall₂ AlikeArguments (left.argumentsIn place) (right.argumentsIn place) := by
  refine List.rel_filter (fun argument other same => ?_) alike.arguments
  change argument.place == place ↔ other.place == place
  rw [same.place]

private theorem alike_placeGroup {place : Place} (plain : IsPlain place.name) (isOptional : Bool) :
    List.Forall₂ AlikeGroups (left.placeGroup place isOptional)
      (right.placeGroup place isOptional) := by
  have arguments := alike_argumentsIn alike place
  have required := any_eq_of_forall₂ (fun _ _ argument => argument.required) arguments
  unfold Endpoint.placeGroup
  generalize left.argumentsIn place = first at arguments required
  generalize right.argumentsIn place = second at arguments required
  cases arguments with
  | nil => exact .nil
  | cons head rest =>
      exact .cons ⟨plain, rfl, congrArg (!isOptional || ·) required,
        .members (.cons head rest)⟩ .nil

private theorem alike_bodyGroup : List.Forall₂ AlikeGroups left.bodyGroup right.bodyGroup := by
  have bodies := alike.bodyType
  unfold Endpoint.bodyGroup
  generalize left.bodyType = first at bodies
  generalize right.bodyType = second at bodies
  cases bodies with
  | none => exact .nil
  | some types =>
      have plain : IsPlain "body" := by decide
      exact .cons ⟨plain, rfl, rfl, .whole types⟩ .nil

private theorem alike_inputGroups :
    List.Forall₂ AlikeGroups left.inputGroups right.inputGroups := by
  have query : List.Forall₂ AlikeGroups (left.placeGroup .query true)
      (right.placeGroup .query true) := alike_placeGroup alike (by decide) true
  have path : List.Forall₂ AlikeGroups (left.placeGroup .path false)
      (right.placeGroup .path false) := alike_placeGroup alike (by decide) false
  have header : List.Forall₂ AlikeGroups (left.placeGroup .header true)
      (right.placeGroup .header true) := alike_placeGroup alike (by decide) true
  exact List.rel_append (List.rel_append (List.rel_append query (alike_bodyGroup alike)) path)
    header

private theorem takesInput_eq : left.takesInput = right.takesInput := by
  rw [Endpoint.takesInput, Endpoint.takesInput, isEmpty_eq_of_forall₂ alike.arguments,
    isSome_eq_of_rel alike.bodyType]

end

/-! ## Signatures -/

private theorem balanced_argumentFallback (groups : List InputGroup) :
    Balanced (Endpoint.argumentFallback groups) := by
  unfold Endpoint.argumentFallback
  split <;> exact fun _ => rfl

/-- A signature, set out in either way. -/
theorem similar_signature {name : Text} (plain : IsPlain name) {opening between closing : Text}
    (opens : Reads [] [.curly, .round] opening)
    (turns : Reads [.curly, .round] [.curly, .round] between)
    (closes : Reads [.curly, .round] [.round] closing) {names : Text} (balanced : Balanced names)
    {left right : Text} (similar : Similar left right) (groups : List InputGroup) :
    Similar
      ("static " ++ name ++ opening ++ names ++ between ++ left ++ closing ++
        Endpoint.argumentFallback groups ++ ")")
      ("static " ++ name ++ opening ++ names ++ between ++ right ++ closing ++
        Endpoint.argumentFallback groups ++ ")") := by
  have head : Reads [] [.curly, .round] ("static " ++ name ++ opening) :=
    (Reads.append (fun _ => rfl) plain.balanced).append opens
  have members := (head.append (balanced.within [.curly, .round])).append turns
  have body := (Alike.reads_append members (similar.within [.curly, .round])).append_reads closes
  have fallback := (balanced_argumentFallback groups).within [.round]
  exact (body.append_reads fallback).append_reads fun _ => rfl

section

variable {left right : List InputGroup} (alike : List.Forall₂ AlikeGroups left right)

include alike

private theorem argumentFallback_eq : Endpoint.argumentFallback left =
    Endpoint.argumentFallback right := by
  have required : left.any (·.required) = right.any (·.required) :=
    any_eq_of_forall₂ (fun _ _ group => group.required) alike
  unfold Endpoint.argumentFallback
  rw [required]

private theorem balanced_groupNames : ∀ group ∈ left, Balanced group.name :=
  forall_mem_of_forall₂ (fun _ _ group => group.plain.balanced) alike

private theorem similar_inlineSignature {name : Text} (plain : IsPlain name) :
    Similar (Endpoint.inlineSignature name left) (Endpoint.inlineSignature name right) := by
  have names : left.map (·.name) = right.map (·.name) :=
    map_eq_of_forall₂ (fun _ _ group => group.name) alike
  have balanced : Balanced (joined ", " (left.map (·.name))) :=
    balanced_joined (fun _ => rfl) (List.forall_mem_map.mpr (balanced_groupNames alike))
  have members : List.Forall₂ Similar
      (left.map fun group => memberNamed group.name group.required ++ ": " ++ group.inlineType)
      (right.map fun group => memberNamed group.name group.required ++ ": " ++
        group.inlineType) := by
    refine List.rel_map (fun group other same => ?_) alike
    have key : Balanced (memberNamed group.name group.required ++ ": ") :=
      (balanced_memberNamed same.plain.balanced group.required).append fun _ => rfl
    rw [← same.name, ← same.required]
    exact Alike.reads_append key (similar_inlineType same)
  unfold Endpoint.inlineSignature
  rw [← argumentFallback_eq alike, ← names]
  exact similar_signature plain (fun _ => rfl) (fun _ => rfl) (fun _ => rfl) balanced
    (similar_joined (fun _ => rfl) members) left

private theorem similar_blockSignature {name : Text} (plain : IsPlain name) :
    Similar (Endpoint.blockSignature name left) (Endpoint.blockSignature name right) := by
  have names : left.map (·.name ++ Text.ofString ",") = right.map (·.name ++ Text.ofString ",") :=
    map_eq_of_forall₂ (fun _ _ group => congrArg (· ++ Text.ofString ",") group.name) alike
  have balanced : Balanced (lines (left.map (·.name ++ Text.ofString ","))) := by
    apply balanced_lines
    intro line member
    obtain ⟨group, inLeft, rfl⟩ := List.mem_map.mp member
    exact (balanced_groupNames alike group inLeft).append fun _ => rfl
  have members : List.Forall₂ Similar
      (left.map fun group =>
        memberNamed group.name group.required ++ ": " ++ group.blockType ++ ";")
      (right.map fun group =>
        memberNamed group.name group.required ++ ": " ++ group.blockType ++ ";") := by
    refine List.rel_map (fun group other same => ?_) alike
    have key : Balanced (memberNamed group.name group.required ++ ": ") :=
      (balanced_memberNamed same.plain.balanced group.required).append fun _ => rfl
    have semicolon : Balanced ";" := fun _ => rfl
    rw [← same.name, ← same.required]
    exact (Alike.reads_append key (similar_blockType same)).append_reads semicolon
  unfold Endpoint.blockSignature
  rw [← argumentFallback_eq alike, ← names]
  exact similar_signature plain (fun _ => rfl) (fun _ => rfl) (fun _ => rfl) (balanced.indent 1)
    (similar_indented (similar_lines members)) left

end

private theorem fitsInline_eq {left right : Text} (similar : Similar left right) :
    Endpoint.fitsInline left = Endpoint.fitsInline right := by
  rcases similar.breaks with rfl | ⟨inLeft, inRight⟩
  · rfl
  · have tooLong {signature : Text} (member : .char '\n' ∈ signature) :
        Endpoint.fitsInline signature = false := by
      simp [Endpoint.fitsInline, member]
    rw [tooLong inLeft, tooLong inRight]

private theorem similar_signatureOf {left right : Endpoint} (alike : AlikeEndpoints left right)
    (plain : IsPlain left.operationId) : Similar left.signature right.signature := by
  have groups := alike_inputGroups alike
  have inline := similar_inlineSignature groups plain
  unfold Endpoint.signature
  rw [← takesInput_eq alike, ← alike.operationId]
  split
  · dsimp only
    rw [fitsInline_eq inline]
    split
    · exact inline
    · exact similar_blockSignature groups plain
  · have head : Balanced ("static " ++ left.operationId) :=
      Reads.append (fun _ => rfl) plain.balanced
    exact (head.append fun _ => rfl).alike

/-! ## Statements -/

section

variable {left right : Endpoint} (alike : AlikeEndpoints left right)

include alike

private theorem urlExpression_eq : left.urlExpression = right.urlExpression := by
  have arguments := alike_argumentsIn alike .path
  unfold Endpoint.urlExpression
  rw [← alike.path]
  generalize left.argumentsIn .path = first at arguments
  generalize right.argumentsIn .path = second at arguments
  have step (url : Text) (argument other : Argument) (same : AlikeArguments argument other) :
      Endpoint.substituted url argument = Endpoint.substituted url other := by
    rw [Endpoint.substituted, Endpoint.substituted, same.name]
  have url := foldl_eq_of_forall₂ step arguments (Endpoint.templateText left.path)
  cases arguments with
  | nil => rfl
  | cons _ _ => exact congrArg (Endpoint.templateMark ++ · ++ Endpoint.templateMark) url

private theorem headerEntries_eq : left.headerEntries = right.headerEntries := by
  have arguments := alike_argumentsIn alike .header
  have required : (left.argumentsIn .header).any (·.required) =
      (right.argumentsIn .header).any (·.required) :=
    any_eq_of_forall₂ (fun _ _ argument => argument.required) arguments
  unfold Endpoint.headerEntries
  dsimp only
  rw [← alike.contentType, required]
  congr 1
  refine map_eq_of_forall₂ (fun argument other same => ?_) arguments
  rw [same.name]

private theorem statements_eq : left.statements = right.statements := by
  have query : (left.argumentsIn .query).isEmpty = (right.argumentsIn .query).isEmpty :=
    isEmpty_eq_of_forall₂ (alike_argumentsIn alike .query)
  unfold Endpoint.statements Endpoint.requestOptions
  rw [urlExpression_eq alike, headerEntries_eq alike, alike.method, query,
    isSome_eq_of_rel alike.bodyType]

end

private theorem balanced_objectCall {head : Text} (balanced : Balanced head) {entries : List Text}
    (inside : ∀ entry ∈ entries, Balanced entry) :
    Balanced (lines (Endpoint.objectCall head entries)) := by
  have opening : Reads [] [.curly, .round] (head ++ "(\x7b") := balanced.append fun _ => rfl
  have body := ((balanced_lines inside).indent 1).within [.curly, .round]
  have closing : Reads [.curly, .round] [] "\x7d);" := fun _ => rfl
  exact (opening.alike.line (body.alike.line closing.alike)).left_reads

private theorem balanced_requestOptions {endpoint : Endpoint}
    (names : Endpoint.HasPlainNames endpoint) :
    ∀ option ∈ endpoint.requestOptions, Balanced option := by
  have comma : Balanced "," := fun _ => rfl
  have url : Balanced ("url: " ++ endpoint.urlExpression ++ ",") :=
    (Reads.append (fun _ => rfl) (balanced_urlExpression names.pathArguments)).append comma
  have method : Balanced ("method: " ++ quoted endpoint.method ++ ",") :=
    (Reads.append (fun _ => rfl) (balanced_quoted endpoint.method)).append comma
  intro option member
  rcases List.mem_append.mp member with member | member
  · rcases List.mem_append.mp member with member | member
    · rcases List.mem_cons.mp member with rfl | member
      · exact url
      · obtain rfl := List.mem_singleton.mp member
        exact method
    · split at member
      · cases member
      · obtain rfl := List.mem_singleton.mp member
        exact fun _ => rfl
  · split at member
    · obtain rfl := List.mem_singleton.mp member
      exact fun _ => rfl
    · cases member

private theorem balanced_headerAccess (name : Text) (isOptional : Bool) :
    Balanced (Endpoint.headerAccess name isOptional) := by
  unfold Endpoint.headerAccess
  split
  · exact balanced_memberAccess (fun _ => rfl) name
  · split
    · rename_i identifier
      exact Reads.append (fun _ => rfl) (isPlain_of_isIdentifier identifier).balanced
    · have opening : Reads [] [.square] "header?.[" := fun _ => rfl
      exact (balanced_quoted name).enclosed opening fun _ => rfl

private theorem balanced_headerEntries (endpoint : Endpoint) :
    ∀ entry ∈ endpoint.headerEntries, Balanced entry.2 := by
  intro entry member
  rcases List.mem_append.mp member with member | member
  · obtain ⟨type, _, rfl⟩ := List.mem_map.mp member
    exact balanced_quoted type
  · obtain ⟨argument, _, rfl⟩ := List.mem_map.mp member
    exact balanced_headerAccess argument.name _

private theorem balanced_statements {endpoint : Endpoint}
    (names : Endpoint.HasPlainNames endpoint) :
    Balanced (lines endpoint.statements) := by
  have newRequest : Balanced "const request = new Request" := fun _ => rfl
  have requestHeaders : Balanced "request.headers" := fun _ => rfl
  have result : Balanced (lines [("return request;" : Text)]) := fun _ => rfl
  have lineEnd : Balanced "\n" := fun _ => rfl
  have request := balanced_objectCall newRequest (balanced_requestOptions names)
  have entries : ∀ entry ∈ endpoint.headerEntries.map fun header =>
      quoted header.1 ++ ": " ++ header.2 ++ Text.ofString ",", Balanced entry := by
    intro entry member
    obtain ⟨⟨key, value⟩, inEntries, rfl⟩ := List.mem_map.mp member
    have colon : Balanced ": " := fun _ => rfl
    have comma : Balanced "," := fun _ => rfl
    exact (((balanced_quoted key).append colon).append
      (balanced_headerEntries endpoint _ inEntries)).append comma
  have headers := balanced_objectCall requestHeaders entries
  have call (head : Text) (entries : List Text) : Endpoint.objectCall head entries ≠ [] := by
    simp [Endpoint.objectCall]
  unfold Endpoint.statements
  dsimp only
  rw [lines_append (List.append_ne_nil_of_left_ne_nil (call _ _) _) (by simp)]
  split
  · rw [List.append_nil]
    exact (request.append lineEnd).append result
  · rw [lines_append (call _ _) (call _ _)]
    exact (((request.append lineEnd).append headers).append lineEnd).append result

/-! ## Methods -/

private theorem similar_comment {left right : Endpoint} (alike : AlikeEndpoints left right) :
    Option.Rel Similar left.comment right.comment := by
  have plain : IsInner descriptionTag := by decide
  have further (deprecated : Bool) :
      ∀ line ∈ (if deprecated then [("@deprecated" : Text)] else []), IsInner line := by
    cases deprecated <;> decide
  have comments (summary other : Option Text) (deprecated : Bool) :
      Similar (docComment summary descriptionTag (if deprecated then ["@deprecated"] else []))
        (docComment other descriptionTag (if deprecated then ["@deprecated"] else [])) :=
    (isComment_docComment summary plain (further deprecated)).similar
      (isComment_docComment other plain (further deprecated))
  have summaries := alike.summary
  unfold Endpoint.comment
  rw [← alike.deprecated]
  generalize left.summary = first at summaries
  generalize right.summary = second at summaries
  rcases first with _ | _ | ⟨c, first⟩ <;> rcases second with _ | _ | ⟨d, second⟩ <;>
    cases left.deprecated
  all_goals first
    | exact .none
    | exact .some (comments _ _ _)
    | exact nomatch summaries

theorem similar_methodText {left right : Endpoint} (alike : AlikeEndpoints left right)
    (names : Endpoint.HasPlainNames left) : Similar left.methodText right.methodText := by
  have signature := similar_signatureOf alike (isPlain_of_isIdentifier names.operationId)
  have statements := balanced_statements names
  have opening : Reads [] [.curly] " \x7b\n" := fun _ => rfl
  have closing : Reads [.curly] [] "\n\x7d" := fun _ => rfl
  have lineEnd : Balanced "\n" := fun _ => rfl
  have method := ((signature.append_reads opening).append_reads
    ((statements.indent 1).within [.curly])).append_reads closing
  have comments := similar_comment alike
  unfold Endpoint.methodText
  rw [← statements_eq alike]
  generalize left.comment = first at comments
  generalize right.comment = second at comments
  cases comments with
  | none => exact method
  | some comment => exact (comment.append_reads lineEnd).append method

end ApiClient.Code
