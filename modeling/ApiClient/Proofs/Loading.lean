import ApiClient.Generation
import ApiClient.Loading
import ApiClient.Proofs.Agreement
import ApiClient.Proofs.Document.Refusals

/-! How documents are loaded. A loaded document has a version, for want of which alone the
generation of code calls a document unfit. Whatever else happens, loading fails in one of two
ways, and the failure has the source as it was given. -/

namespace ApiClient

/-! ## Data -/

/-- What can keep data from being had. An address is not reached or a file not read, text is not
decoded, or it is not in its format. -/
inductive Cause.IsOfSource (source : Text) : Cause → Prop where
  | address (web : Network.isWebAddress source) (fault : Text.Utf8.Unencodable) :
      IsOfSource source (.unencodable fault)
  | exchange (web : Network.isWebAddress source) (fault : Network.Fault) :
      IsOfSource source (.exchange fault)
  | noFile (file : ¬Network.isWebAddress source) (path : Text) : IsOfSource source (.noFile path)
  | access (file : ¬Network.isWebAddress source) (fault : AccessFault) :
      IsOfSource source (.access fault)
  | encoding (file : ¬Network.isWebAddress source) (fault : Text.Utf8.Fault) :
      IsOfSource source (.encoding fault)
  | json (failure : Json.Failure) : IsOfSource source (.json failure)
  | yaml (fault : Yaml.Fault) : IsOfSource source (.yaml fault)

private theorem isOfSource_read {source : Text} {format : DataFormat} {characters : List Char}
    {cause : Cause} (fails : format.read characters = .error cause) : cause.IsOfSource source := by
  cases format with
  | json =>
      obtain ⟨failure, -, rfl⟩ := mapError_eq_error_iff.mp fails
      exact .json failure
  | yaml =>
      obtain ⟨fault, -, rfl⟩ := mapError_eq_error_iff.mp fails
      exact .yaml fault

private theorem isOfSource_fetch {origins : Origins} {source : Text} {cause : Cause}
    (web : Network.isWebAddress source) (fails : (origins.fetch source).outcome = .error cause) :
    cause.IsOfSource source := by
  simp only [Origins.fetch, Logged.outcome_bind, Logged.outcome_ofExcept, bind_eq_error_iff]
    at fails
  obtain ⟨⟨⟩⟩ | ⟨_, _, noAddress | ⟨address, _, fails⟩⟩ := fails
  · rw [addressOf] at noAddress
    split at noAddress
    · cases noAddress
      exact .address web _
    · cases noAddress
  obtain noAnswer | ⟨response, _, noText | ⟨text, _, noData⟩⟩ := fails
  · obtain ⟨fault, -, rfl⟩ := mapError_eq_error_iff.mp noAnswer
    exact .exchange web fault
  · obtain ⟨fault, -, rfl⟩ := mapError_eq_error_iff.mp noText
    exact .exchange web _
  · exact isOfSource_read noData

private theorem isOfSource_readText {source : Text} {tree : FileTree} {path : Path} {cause : Cause}
    (file : ¬Network.isWebAddress source) (fails : tree.readText path = .error cause) :
    cause.IsOfSource source := by
  simp only [FileTree.readText, bind_eq_error_iff] at fails
  obtain noOctets | ⟨octets, _, noCharacters | ⟨characters, _, ⟨⟩⟩⟩ := fails
  · obtain ⟨fault, -, rfl⟩ := mapError_eq_error_iff.mp noOctets
    exact .access file fault
  · obtain ⟨fault, -, rfl⟩ := mapError_eq_error_iff.mp noCharacters
    exact .encoding file fault

private theorem isOfSource_readFile {origins : Origins} {source : Text} {cause : Cause}
    (file : ¬Network.isWebAddress source)
    (fails : (origins.readFile source).outcome = .error cause) : cause.IsOfSource source := by
  rw [Origins.readFile, Logged.outcome_bind, bind_eq_error_iff, Logged.outcome_ofExcept] at fails
  obtain noAnswer | ⟨isThere, _, fails⟩ := fails
  · obtain ⟨fault, -, rfl⟩ := mapError_eq_error_iff.mp noAnswer
    exact .access file fault
  cases isThere with
  | false =>
      cases fails
      exact .noFile file _
  | true =>
      rw [if_pos rfl, Logged.outcome_bind, bind_eq_error_iff, Logged.outcome_ofExcept,
        bind_eq_error_iff] at fails
      obtain ⟨⟨⟩⟩ | ⟨_, _, noText | ⟨text, _, noData⟩⟩ := fails
      · exact isOfSource_readText file noText
      · exact isOfSource_read noData

private theorem isOfSource_data {origins : Origins} {source : Text} {cause : Cause}
    (fails : (origins.data source).outcome = .error cause) : cause.IsOfSource source := by
  rw [Origins.data] at fails
  split at fails
  · rename_i web
    exact isOfSource_fetch web fails
  · rename_i file
    exact isOfSource_readFile file fails

/-! ## Documents -/

/-- Data is no document, for some reasons. -/
inductive Value.IsUnfit (data : Value) : List Text → Prop where
  | notMapping (other : ∀ entries, data.opened ≠ .map entries) :
      data.IsUnfit ["document is not a JSON object"]
  | noVersion {entries : List (Value × Value)} (mapping : data.opened = .map entries)
      (missing : Value.lookup "openapi" entries = none ∨
        Value.lookup "openapi" entries = some .null) :
      data.IsUnfit ["OpenAPI version is not defined"]
  | refused {entries : List (Value × Value)} {version : Value} {problems : List Problem}
      (mapping : data.opened = .map entries)
      (given : Value.lookup "openapi" entries = some version) (notNull : version ≠ .null)
      (refused : checkDocument data = .refused problems) (reported : problems ≠ []) :
      data.IsUnfit (problems.map Problem.message)

private theorem Value.IsUnfit.ne_nil {data : Value} {errors : List Text}
    (unfit : data.IsUnfit errors) :
    errors ≠ [] := by
  cases unfit with
  | notMapping => nofun
  | noVersion => nofun
  | refused _ _ _ _ reported => exact fun empty => reported (List.map_eq_nil_iff.mp empty)

/-- Data is a document with a version, or it is unfit. -/
theorem validate_cases (data : Value) :
    (∃ document version, validate data = .ok document ∧ document.openapi = some version) ∨
      ∃ errors, validate data = .error errors ∧ data.IsUnfit errors := by
  unfold validate
  split
  · rename_i entries mapping
    split
    · rename_i missing
      exact .inr ⟨_, rfl, .noVersion mapping (.inl missing)⟩
    · rename_i null
      exact .inr ⟨_, rfl, .noVersion mapping (.inr null)⟩
    · rename_i version notNull given
      split
      · rename_i document fields isExact accepted
        have hasVersion := (isSome_openapi mapping given notNull).of_accepted accepted
        obtain ⟨version, ofDocument⟩ := Option.isSome_iff_exists.mp hasVersion
        exact .inl ⟨document, version, rfl, ofDocument⟩
      · rename_i problems refused
        have reported : problems ≠ [] := fun empty =>
          reports_checkDocument data (refused.trans (congrArg _ empty))
        exact .inr ⟨_, rfl, .refused mapping given notNull refused reported⟩
  · rename_i other
    exact .inr ⟨_, rfl, .notMapping other⟩

/-- Whether a document is unfit is asked again before code is generated, and only its version. -/
theorem generateSources_eq_validation_iff {directory : List Text} {settings : Settings}
    {document : Document} {shown : Text} {errors : List Text} :
    (generateSources directory settings document).outcome =
        .error (.fault (.validation shown errors)) ↔
      document.openapi = none ∧ shown = settings.sourceShown ∧
        errors = ["OpenAPI version is not defined"] := by
  unfold generateSources
  cases document.openapi with
  | none =>
      constructor
      · intro fails
        cases Except.error.inj fails
        exact ⟨rfl, rfl, rfl⟩
      · rintro ⟨-, rfl, rfl⟩
        rfl
  | some version =>
      refine iff_of_false (fun fails => ?_) nofun
      rw [Option.isNone_some, if_neg Bool.false_ne_true] at fails
      simp only [Logged.outcome_bind, Logged.outcome_mapError, Logged.outcome_ofExcept,
        bind_eq_error_iff, mapError_eq_error_iff] at fails
      obtain ⟨broken, _, same⟩ | ⟨endpoints, _, ⟨⟨⟩⟩ | ⟨_, _, fails⟩⟩ := fails
      · cases broken <;> cases same
      obtain ⟨_, _, ⟨⟩⟩ | ⟨models, _, ⟨_, _, ⟨⟩⟩ | ⟨imports, _, ⟨⟨⟩⟩ | ⟨api, _, ⟨⟩⟩⟩⟩ := fails

/-- A document with a version is loaded, which is never found unfit later, or the data cannot be
had, or it is no document. The source in a failure is the one that was asked for. -/
theorem loadDocument_cases (origins : Origins) (source : Text) :
    (∃ data document version, (origins.data source).outcome = .ok data ∧
      validate data = .ok document ∧ document.openapi = some version ∧
      (loadDocument origins source).outcome = .ok document ∧
      ∀ directory settings shown errors, (generateSources directory settings document).outcome ≠
        .error (.fault (.validation shown errors))) ∨
    (∃ cause, (origins.data source).outcome = .error cause ∧ cause.IsOfSource source ∧
      (loadDocument origins source).outcome = .error (.fault (.loading source (some cause)))) ∨
    ∃ data errors, (origins.data source).outcome = .ok data ∧ data.IsUnfit errors ∧ errors ≠ [] ∧
      (loadDocument origins source).outcome = .error (.fault (.validation source errors)) := by
  have outcome : (loadDocument origins source).outcome =
      ((origins.data source).outcome.mapError fun cause =>
        Failure.fault (.loading source (some cause))) >>= fun data =>
          (validated source data).mapError Failure.fault :=
    Logged.outcome_bind _ _
  cases ofSource : (origins.data source).outcome with
  | error cause =>
      rw [ofSource] at outcome
      exact .inr (.inl ⟨cause, rfl, isOfSource_data ofSource, outcome⟩)
  | ok data =>
      rw [ofSource] at outcome
      obtain ⟨document, version, valid, given⟩ | ⟨errors, invalid, unfit⟩ := validate_cases data
      · refine .inl ⟨data, document, version, rfl, valid, given, outcome.trans ?_, ?_⟩
        · change (validated source data).mapError Failure.fault = _
          rw [validated, valid]
          rfl
        · intro directory settings shown errors fails
          have missing := (generateSources_eq_validation_iff.mp fails).1
          rw [given] at missing
          cases missing
      · refine .inr (.inr ⟨data, errors, rfl, unfit, unfit.ne_nil, outcome.trans ?_⟩)
        change (validated source data).mapError Failure.fault = _
        rw [validated, invalid]
        rfl

end ApiClient
