import ApiClient.Proofs.Api.Signatures
import ApiClient.Proofs.Code.Items
import Mathlib.Data.List.Nodup

/-! Headers as code reads them back. A request gets its headers as an object, with one entry for
the type of the body and one for each header argument. Of several entries with one key the last
one counts, so a header argument can take the place of the type of the body. -/

namespace ApiClient.Code

/-! ## Reading -/

/-- What code gives to a header: a text, or a member of the group of headers. -/
inductive HeaderValue where
  | literal (text : Text)
  | member (name : Text)
  deriving DecidableEq, Repr

/-- The name by which a member is selected, and what follows it. -/
def readSelector? : Text → Option (Text × Text)
  | .char '?' :: .char '.' :: rest => (readIndex? rest).or (readIdentifier? rest)
  | .char '.' :: rest => readIdentifier? rest
  | text => readIndex? text

/-- The name of a member of the group of headers, and what follows it. -/
def readAccess? (text : Text) : Option (Text × Text) :=
  (Text.remainder? "header" text).bind readSelector?

def readHeaderValue? : Text → Option (HeaderValue × Text)
  | .char '\'' :: rest => do
    let (text, rest) ← Quotation.finish? (.inside []) rest
    return (.literal text, rest)
  | text => (readAccess? text).map fun (name, rest) => (.member name, rest)

/-- The key and the value of an entry, and what follows it and the space after it. -/
def readHeader? (text : Text) : Option ((Text × HeaderValue) × Text) := do
  let (key, rest) ← readKey? text
  let rest ← Text.remainder? ":" rest
  let (value, rest) ← readHeaderValue? (skipSpace rest)
  let rest ← Text.remainder? "," (skipSpace rest)
  return ((key, value), skipSpace rest)

private theorem readSelector?_length {text name rest : Text}
    (found : readSelector? text = some (name, rest)) : rest.length ≤ text.length := by
  rw [readSelector?.eq_def] at found
  split at found
  · rename_i selector
    have within : rest.length ≤ selector.length :=
      (Option.or_eq_some_iff.mp found).elim readIndex?_length fun other =>
        readIdentifier?_length other.2
    exact Nat.le_succ_of_le (Nat.le_succ_of_le within)
  · exact Nat.le_succ_of_le (readIdentifier?_length found)
  · exact readIndex?_length found

private theorem readAccess?_length {text name rest : Text}
    (found : readAccess? text = some (name, rest)) :
    rest.length ≤ text.length := by
  obtain ⟨selector, ofGroup, selected⟩ := Option.bind_eq_some_iff.mp found
  have groupLength := Text.remainder?_length ofGroup
  have selectorLength := readSelector?_length selected
  omega

private theorem readHeaderValue?_length {text rest : Text} {value : HeaderValue}
    (found : readHeaderValue? text = some (value, rest)) : rest.length ≤ text.length := by
  rw [readHeaderValue?.eq_def] at found
  split at found
  · simp only [Option.bind_eq_bind, Option.bind_eq_some_iff] at found
    obtain ⟨⟨read, after⟩, finished, ⟨⟩⟩ := found
    exact Nat.le_succ_of_le (Quotation.finish?_length finished)
  · obtain ⟨⟨name, after⟩, accessed, ⟨⟩⟩ := Option.map_eq_some_iff.mp found
    exact readAccess?_length accessed

private theorem readHeader?_length {text rest : Text} {entry : Text × HeaderValue}
    (found : readHeader? text = some (entry, rest)) : rest.length < text.length := by
  simp only [readHeader?, Option.bind_eq_bind, Option.bind_eq_some_iff] at found
  obtain ⟨⟨key, afterKey⟩, ofKey, typed, ofColon, ⟨value, afterValue⟩, ofValue, last,
    ofComma, ⟨⟩⟩ := found
  have keyLength := readKey?_length ofKey
  have colonLength := Text.remainder?_length ofColon
  have valueLength := (readHeaderValue?_length ofValue).trans (skipSpace_length typed)
  have commaLength := Text.remainder?_length ofComma
  have afterLength := skipSpace_length afterValue
  have lastLength := skipSpace_length last
  have comma : 0 < ("," : Text).length := by decide
  dsimp only at colonLength commaLength
  omega

def headerReader : ItemReader (Text × HeaderValue) := ⟨readHeader?, readHeader?_length⟩

/-- The headers that a request gets in the statement with which a text begins, if it
gets any, and what follows. -/
def readHeaders? (text : Text) : Option (List (Text × HeaderValue) × Text) :=
  match Text.remainder? "request.headers(\x7b" (skipSpace text) with
  | some rest => do
    let (entries, rest) ← headerReader.all? (skipSpace rest)
    let rest ← Text.remainder? ");" rest
    return (entries, skipSpace rest)
  | none => some ([], skipSpace text)

/-- The value of a key in an object, which is that of the last entry with the key. -/
def valueOf? (entries : List (Text × HeaderValue)) (key : Text) : Option HeaderValue :=
  (entries.filter (·.1 == key)).getLast?.map (·.2)

/-! ## Values -/

namespace HeaderValue

def text (isOptional : Bool) : HeaderValue → Text
  | .literal text => quoted text
  | .member name => Endpoint.headerAccess name isOptional

/-- A value as it is read from indented code. -/
def indented (level : Nat) : HeaderValue → HeaderValue
  | .literal text => .literal (Text.Literal.indented level text)
  | .member name => .member (Text.Literal.indented level (keyName name))

end HeaderValue

section

variable (level : Nat) {name : Text} (tail : Text)

private theorem readIndex?_hang_of_isIdentifier (identifier : isIdentifier name) (rest : Text) :
    readIndex? (Text.hang level (name ++ rest) ++ tail) = none := by
  obtain ⟨c, others, rfl, part⟩ := exists_of_isIdentifier identifier
  have noBracket : CodePoint.char '[' ≠ c := (ne_of_isIn part rfl).symm
  have fails (text : Text) : Text.remainder? "['" (c :: text) = none := if_neg noBracket
  rw [List.cons_append, Text.hang_cons_of_not_isBreak level _
    (Enumeration.Reader.not_isBreak_of_isIdentifierPart part), List.cons_append, readIndex?, fails]
  rfl

private theorem readIdentifier?_hang_comma (identifier : isIdentifier name) :
    readIdentifier? (Text.hang level (name ++ ",") ++ tail) = some (keyName name, "," ++ tail) := by
  have ends : EndsIdentifier (Text.hang level "," ++ tail) := .cons rfl tail
  exact readIdentifier?_hang identifier level ends

private theorem readAccess?_hang (name : Text) (isOptional : Bool) :
    readAccess? (Text.hang (level + 1) (Endpoint.headerAccess name isOptional ++ ",") ++ tail) =
      some (Text.Literal.indented (level + 1) (keyName name), "," ++ tail) := by
  have group (mark rest : Text) (sameLine : ∀ c ∈ mark, c.isIn Text.isBreak = false) :
      readAccess? (Text.hang (level + 1) ("header" ++ mark ++ rest ++ ",") ++ tail) =
        readSelector? (mark ++ (Text.hang (level + 1) (rest ++ ",") ++ tail)) := by
    have header : ∀ c ∈ Text.ofString "header", c.isIn Text.isBreak = false := by decide
    rw [List.append_assoc, List.append_assoc, Text.hang_append_of_not_isBreak _ _ _ header,
      Text.hang_append_of_not_isBreak _ _ _ sameLine, List.append_assoc, List.append_assoc,
      readAccess?, Text.remainder?_append]
    rfl
  rw [Endpoint.headerAccess_eq]
  by_cases identifier : isIdentifier name
  · have noIndex := readIndex?_hang_of_isIdentifier (level + 1) tail identifier ","
    have member := readIdentifier?_hang_comma (level + 1) tail identifier
    rw [if_pos identifier, if_pos identifier,
      indented_of_isWholeIdentifier (isWholeIdentifier_keyName identifier)]
    cases isOptional with
    | true =>
        refine (group "?." name (by decide)).trans ?_
        exact (congrArg (Option.or · _) noIndex).trans member
    | false => exact (group "." name (by decide)).trans member
  · have index := readIndex?_hang name "," (level + 1) tail
    have same : keyName name = name := if_neg identifier
    rw [if_neg identifier, if_neg identifier, same]
    cases isOptional with
    | true =>
        refine (group "?." _ (by decide)).trans ?_
        exact congrArg (Option.or · _) index
    | false => exact (group "" _ (by decide)).trans index

private theorem readHeaderValue?_hang (value : HeaderValue) (isOptional : Bool) :
    readHeaderValue? (Text.hang (level + 1) (value.text isOptional ++ ",") ++ tail) =
      some (value.indented (level + 1), "," ++ tail) := by
  cases value with
  | literal text =>
      have comma : Text.hang (level + 1) "," = "," := rfl
      have opens (text : Text) : readHeaderValue? (quoted text ++ ("," ++ tail)) = do
          let (text, rest) ← Quotation.finish? (.inside [])
            (Text.Literal.body text ++ "'" ++ ("," ++ tail))
          return (.literal text, rest) := rfl
      rw [HeaderValue.text, Text.hang_quoted, comma, List.append_assoc, opens,
        Quotation.finish?_body]
      rfl
  | member name =>
      obtain ⟨selector, access⟩ := Endpoint.header_prefix_headerAccess name isOptional
      have accessed := readAccess?_hang level tail name isOptional
      rw [← access] at accessed
      rw [HeaderValue.text, ← access]
      exact congrArg (Option.map _) accessed

/-! ## Entries -/

/-- An entry with its value. -/
def entryText (isOptional : Bool) (entry : Text × HeaderValue) : Text :=
  quoted entry.1 ++ ": " ++ entry.2.text isOptional ++ ","

/-- An entry as it is read from indented code. -/
def indentedEntry (level : Nat) (entry : Text × HeaderValue) : Text × HeaderValue :=
  (Text.Literal.indented level entry.1, entry.2.indented level)

private theorem skipSpace_value (value : HeaderValue) (isOptional : Bool) (level : Nat) :
    skipSpace (" " ++ (Text.hang (level + 1) (value.text isOptional ++ ",") ++ tail)) =
      Text.hang (level + 1) (value.text isOptional ++ ",") ++ tail := by
  cases value with
  | literal text => rfl
  | member name =>
      obtain ⟨selector, access⟩ := Endpoint.header_prefix_headerAccess name isOptional
      rw [HeaderValue.text, ← access]
      rfl

private theorem readHeader?_hang (isOptional : Bool) (entry : Text × HeaderValue) :
    readHeader? (Text.hang (level + 1) (entryText isOptional entry) ++ tail) =
      some (indentedEntry (level + 1) entry, skipSpace tail) := by
  obtain ⟨key, value⟩ := entry
  have colon (text : Text) : Text.hang (level + 1) (": " ++ text) =
      ": " ++ Text.hang (level + 1) text :=
    Text.hang_append_of_not_isBreak _ ": " text (by decide)
  have read := readHeaderValue?_hang level tail value isOptional
  rw [entryText, List.append_assoc, List.append_assoc, Text.hang_quoted, colon, List.append_assoc,
    List.append_assoc, readHeader?, readKey?_quoted]
  change (do
    let (value, rest) ← readHeaderValue? (skipSpace
      (" " ++ (Text.hang (level + 1) (value.text isOptional ++ ",") ++ tail)))
    let rest ← Text.remainder? "," (skipSpace rest)
    return ((Text.Literal.indented (level + 1) key, value), skipSpace rest)) = _
  rw [skipSpace_value, read]
  change (do
    let rest ← Text.remainder? "," (("," : Text) ++ tail)
    return ((_, _), skipSpace rest)) = _
  rw [Text.remainder?_append]
  rfl

private theorem reads_entryText (isOptional : Bool) (entry : Text × HeaderValue) :
    headerReader.Reads (level + 1) (some (indentedEntry (level + 1) entry))
      (entryText isOptional entry) :=
  ⟨⟨'\'', _, rfl, rfl, by decide, by decide⟩,
    fun tail => readHeader?_hang level tail isOptional entry⟩

end

end ApiClient.Code

namespace ApiClient.Endpoint

open ApiClient.Code

/-! ## Statements -/

/-- The key under which the type of the body is given. -/
def contentTypeKey : Text := "Content-Type"

section

variable (endpoint : Endpoint)

/-- The headers with what they are given. -/
def headers : List (Text × HeaderValue) :=
  endpoint.contentType.toList.map (fun type => (contentTypeKey, .literal type)) ++
    (endpoint.argumentsIn .header).map fun argument => (argument.name, .member argument.name)

/-- A method up to the statements that follow the creation of its request. -/
def creationText : Text :=
  endpoint.signature ++ " \x7b\n" ++
    indented (lines (objectCall "const request = new Request" endpoint.requestOptions)) ++ "\n"

/-- The statements that follow the creation of a request, and the end of the method. -/
def headerStatements : Text :=
  let headers := endpoint.headers.map (entryText (endpoint.MayLack .header))
  indented (lines ((if headers.isEmpty then [] else objectCall "request.headers" headers) ++
    [Text.ofString "return request;"])) ++ "\n\x7d"

end

variable {endpoint : Endpoint}

private theorem map_entryText_headers :
    endpoint.headers.map (entryText (endpoint.MayLack .header)) =
      endpoint.headerEntries.map fun (key, value) => quoted key ++ ": " ++ value ++ "," := by
  rw [headers, headerEntries_eq, List.map_append, List.map_append, List.map_map, List.map_map,
    List.map_map, List.map_map]
  rfl

private theorem exists_methodText_eq_append : ∃ above,
    endpoint.methodText = above ++ endpoint.creationText ++ endpoint.headerStatements := by
  obtain ⟨above, whole⟩ := endpoint.exists_methodText_eq
  have creation : objectCall "const request = new Request" endpoint.requestOptions ≠ [] :=
    List.cons_ne_nil _ _
  have apart (first rest : Text) :
      indented (first ++ "\n" ++ rest) = indented first ++ "\n" ++ indented rest := by
    rw [List.append_assoc, List.append_assoc]
    exact Text.indent_append_lineFeed 1 first rest
  refine ⟨above, whole.trans ?_⟩
  rw [statements, ← map_entryText_headers, List.append_assoc (objectCall _ _), lines_append creation
    (List.append_ne_nil_of_right_ne_nil _ (List.cons_ne_nil _ _)), apart, creationText,
    headerStatements]
  simp only [List.append_assoc]

private theorem indented_headerCall (entries : List Text) :
    indented (lines (objectCall "request.headers" entries ++ [Text.ofString "return request;"])) ++
        "\n\x7d" =
      "  request.headers(\x7b" ++ ("\n" ++ (indented (indented (lines entries)) ++
        "\n  \x7d);\n  return request;\n\x7d")) := by
  rw [indented, indent_lines]
  change Text.ofString "  request.headers(\x7b" ++ "\n" ++
    (indented (indented (lines entries)) ++ "\n" ++
    "  \x7d);\n  return request;") ++ "\n\x7d" = _
  simp only [List.append_assoc]
  rfl

private theorem readHeaders?_headerStatements :
    readHeaders? endpoint.headerStatements =
      some (endpoint.headers.map (indentedEntry 2), ("return request;\n\x7d" : Text)) := by
  rw [headerStatements]
  cases headers : endpoint.headers with
  | nil => rfl
  | cons header others =>
      have closes : skipSpace "\n  \x7d);\n  return request;\n\x7d" =
          "\x7d" ++ Text.ofString ");\n  return request;\n\x7d" := rfl
      have each : ∀ entry ∈ header :: others, headerReader.Reads 2 (some (indentedEntry 2 entry))
          (entryText (endpoint.MayLack .header) entry) :=
        fun entry _ => reads_entryText 1 _ entry
      have read := ItemReader.all?_lines_of_some each closes rfl
      rw [List.map_cons, List.isEmpty_cons, if_neg Bool.false_ne_true, indented_headerCall,
        ← List.map_cons, indented, indented, Text.indent_indent, readHeaders?]
      change (do
        let (entries, rest) ← headerReader.all? (skipSpace (Text.indent 2 (lines _) ++ _))
        let rest ← Text.remainder? ");" rest
        return (entries, skipSpace rest)) = _
      rw [read]
      rfl

/-! ## Keys -/

/-- A header argument has the name under which the type of the body is given. -/
def NamesContentType (endpoint : Endpoint) : Prop :=
  ∃ argument ∈ endpoint.argumentsIn .header, argument.name = contentTypeKey

instance (endpoint : Endpoint) : Decidable endpoint.NamesContentType :=
  inferInstanceAs (Decidable (∃ argument ∈ endpoint.argumentsIn .header, _))

/-- Arguments in one place have different names if no argument is there twice. -/
theorem nodup_names_argumentsIn
    (distinct : (endpoint.arguments.map fun argument => (argument.name, argument.place)).Nodup)
    (place : Place) : ((endpoint.argumentsIn place).map (·.name)).Nodup := by
  have apart := (List.pairwise_map.mp distinct).filter (·.place == place)
  refine List.pairwise_map.mpr (apart.imp_of_mem ?_)
  intro argument other member otherMember different sameName
  have here : argument.place = place := eq_of_beq (List.mem_filter.mp member).2
  have alsoHere : other.place = place := eq_of_beq (List.mem_filter.mp otherMember).2
  exact different (Prod.ext sameName (here.trans alsoHere.symm))

private theorem map_fst_headers :
    endpoint.headers.map Prod.fst =
      (endpoint.contentType.toList.map fun _ => contentTypeKey) ++
        (endpoint.argumentsIn .header).map (·.name) := by
  rw [headers, List.map_append, List.map_map, List.map_map]
  rfl

/-- The keys are different unless a header argument has that of the type of the body. -/
theorem nodup_keys_iff
    (distinct : (endpoint.arguments.map fun argument => (argument.name, argument.place)).Nodup) :
    ((endpoint.headers.map (indentedEntry 2)).map Prod.fst).Nodup ↔
      ¬(endpoint.contentType.isSome ∧ endpoint.NamesContentType) := by
  have keys : (endpoint.headers.map (indentedEntry 2)).map Prod.fst =
      (endpoint.headers.map Prod.fst).map (Text.Literal.indented 2) := by
    rw [List.map_map, List.map_map]
    rfl
  have names := nodup_names_argumentsIn distinct .header
  rw [keys, List.nodup_map_iff (Text.Literal.indented_injective 2), map_fst_headers]
  cases endpoint.contentType with
  | none => simpa using names
  | some type =>
      change (contentTypeKey :: (endpoint.argumentsIn .header).map (·.name)).Nodup ↔ _
      rw [List.nodup_cons, and_iff_left names, List.mem_map]
      simp [NamesContentType]

private theorem valueOf?_append (entries others : List (Text × HeaderValue)) (key : Text) :
    valueOf? (entries ++ others) key = (valueOf? others key).or (valueOf? entries key) := by
  rw [valueOf?, List.filter_append, List.getLast?_append, Option.map_or]
  rfl

/-- Indentation makes no other key the key of the type of the body. -/
theorem valueOf?_indented (entries : List (Text × HeaderValue)) :
    valueOf? (entries.map (indentedEntry 2)) contentTypeKey =
      (valueOf? entries contentTypeKey).map (HeaderValue.indented 2) := by
  have sameKey : (fun entry => (indentedEntry 2 entry).1 == contentTypeKey) =
      fun entry : Text × HeaderValue => entry.1 == contentTypeKey := by
    funext entry
    have unchanged : Text.Literal.indented 2 contentTypeKey = contentTypeKey := rfl
    rw [Bool.eq_iff_iff, beq_iff_eq, beq_iff_eq, ← unchanged]
    exact (Text.Literal.indented_injective 2).eq_iff
  rw [valueOf?, List.filter_map]
  change ((entries.filter fun entry =>
    (indentedEntry 2 entry).1 == contentTypeKey).map _).getLast?.map _ = _
  rw [sameKey, List.getLast?_map, Option.map_map, valueOf?, Option.map_map]
  rfl

private theorem valueOf?_members (arguments : List Argument) :
    valueOf? (arguments.map fun argument => (argument.name, .member argument.name)) contentTypeKey =
      if ∃ argument ∈ arguments, argument.name = contentTypeKey then some (.member contentTypeKey)
      else none := by
  rw [valueOf?, List.filter_map, List.getLast?_map, Option.map_map]
  cases last : (arguments.filter fun argument => argument.name == contentTypeKey).getLast? with
  | none =>
      have nowhere := List.filter_eq_nil_iff.mp (List.getLast?_eq_none_iff.mp last)
      rw [if_neg fun ⟨argument, member, named⟩ => nowhere argument member (beq_iff_eq.mpr named)]
      exact congrArg (Option.map _) last
  | some argument =>
      obtain ⟨member, named⟩ := List.mem_filter.mp (List.mem_of_getLast? last)
      have name : argument.name = contentTypeKey := eq_of_beq named
      rw [if_pos ⟨argument, member, name⟩]
      refine (congrArg (Option.map _) last).trans ?_
      exact congrArg (some <| HeaderValue.member ·) name

/-- A header argument with the name of the type of the body is the one that gives it. -/
theorem valueOf?_contentType :
    valueOf? (endpoint.headers.map (indentedEntry 2)) contentTypeKey =
      if endpoint.NamesContentType then some (.member contentTypeKey)
      else endpoint.contentType.map fun type => .literal (Text.Literal.indented 2 type) := by
  have ofBody : valueOf? (endpoint.contentType.toList.map fun type =>
      (contentTypeKey, .literal type)) contentTypeKey = endpoint.contentType.map .literal := by
    cases endpoint.contentType <;> rfl
  have ofArguments : valueOf? ((endpoint.argumentsIn .header).map fun argument =>
      (argument.name, .member argument.name)) contentTypeKey =
      if endpoint.NamesContentType then some (.member contentTypeKey) else none :=
    valueOf?_members _
  rw [valueOf?_indented, headers, valueOf?_append, ofArguments, ofBody]
  by_cases named : endpoint.NamesContentType
  · rw [if_pos named, if_pos named]
    rfl
  · rw [if_neg named, if_neg named, Option.none_or, Option.map_map]
    rfl

/-- The statements of a method give the headers to the request. The keys are different, and the
type of the body counts, unless there is a type and a header argument has its key. -/
theorem methodText_headers (endpoint : Endpoint)
    (distinct : (endpoint.arguments.map fun argument => (argument.name, argument.place)).Nodup) :
    ∃ above statements entries, endpoint.methodText = above ++ endpoint.creationText ++ statements ∧
      readHeaders? statements = some (entries, ("return request;\n\x7d" : Text)) ∧
      entries = endpoint.headers.map (indentedEntry 2) ∧
      ((entries.map Prod.fst).Nodup ↔ ¬(endpoint.contentType.isSome ∧ endpoint.NamesContentType)) ∧
      valueOf? entries contentTypeKey =
        if endpoint.NamesContentType then some (.member contentTypeKey)
        else endpoint.contentType.map fun type => .literal (Text.Literal.indented 2 type) := by
  obtain ⟨above, written⟩ := endpoint.exists_methodText_eq_append
  exact ⟨above, endpoint.headerStatements, _, written, readHeaders?_headerStatements, rfl,
    nodup_keys_iff distinct, valueOf?_contentType⟩

/-- A body with headers beside it, and a query argument that has the name of one of them. -/
def tracedUpload : Endpoint where
  operationId := "upload"
  method := "post"
  path := "/files"
  tags := ["files"]
  arguments := [
    { name := "X-Id", place := .header, required := true, type := "string" },
    { name := "trace\n", place := .header, required := false, type := "string" },
    { name := "X-Id", place := .query, required := false, type := "string" }]
  bodyType := some "string"
  contentType := some "text/plain"

theorem methodText_headers_tracedUpload : ∃ above statements entries,
    tracedUpload.methodText = above ++ tracedUpload.creationText ++ statements ∧
      readHeaders? statements = some (entries, ("return request;\n\x7d" : Text)) ∧
      entries = [(("Content-Type" : Text), .literal "text/plain"),
        (("X-Id" : Text), .member "X-Id"),
        (("trace\n" : Text), .member "trace")] ∧
      (entries.map Prod.fst).Nodup := by
  obtain ⟨above, statements, entries, written, read, rfl, distinct_iff, -⟩ :=
    methodText_headers tracedUpload (by decide)
  exact ⟨above, statements, _, written, read, rfl, distinct_iff.mpr (by decide)⟩

/-- An argument that has the key of the type of the body. -/
def typedUpload : Endpoint where
  operationId := "run"
  method := "post"
  path := "/a"
  tags := ["T"]
  arguments := [{ name := "Content-Type", place := .header, required := true, type := "string" }]
  contentType := some "application/json"

/-- Statements that have the key twice. -/
def repeatedKey : Text :=
  lines ["  request.headers(\x7b", "    'Content-Type': 'application/json',",
    "    'Content-Type': header['Content-Type'],", "  \x7d);", "  return request;", "\x7d"]

/-- The type of the body gives way to the argument. -/
theorem methodText_repeats_contentType :
    (typedUpload.arguments.map fun argument => (argument.name, argument.place)).Nodup ∧
      typedUpload.methodText = typedUpload.creationText ++ repeatedKey ∧
      readHeaders? repeatedKey =
        some ([(contentTypeKey, .literal "application/json"),
          (contentTypeKey, .member contentTypeKey)],
          ("return request;\n\x7d" : Text)) := by
  have statements : typedUpload.headerStatements = repeatedKey := by decide +kernel
  refine ⟨by decide, by decide +kernel, ?_⟩
  rw [← statements]
  exact readHeaders?_headerStatements

end ApiClient.Endpoint
