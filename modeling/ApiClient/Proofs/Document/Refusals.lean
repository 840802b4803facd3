import ApiClient.Proofs.Document.Check

/-! A check that refuses data says what is wrong with it. Each way to build checks keeps
this, so that it holds of the check of documents. Data that this check accepts has a
version where it gives one. -/

namespace ApiClient

/-- A check does not refuse without a problem. -/
def Check.Reports {α : Type} (check : Check α) : Prop :=
  check ≠ .refused []

namespace Check.Reports

variable {α β : Type} {check : Check α}

/-! ## Building checks -/

theorem pure (value : α) : (Pure.pure value : Check α).Reports :=
  nofun

theorem refuse (complaint : Complaint) : (Check.refuse complaint : Check α).Reports :=
  nofun

theorem seq {checks : Check (α → β)} (builds : checks.Reports) (reports : check.Reports) :
    (checks <*> check).Reports := by
  cases checks with
  | accepted image =>
      cases check with
      | accepted value => nofun
      | refused problems => exact fun empty => reports (congrArg _ (Check.refused.inj empty))
  | refused problems =>
      have given : problems ≠ [] := fun empty => builds (congrArg _ empty)
      cases check with
      | accepted value => exact fun empty => given (Check.refused.inj empty)
      | refused more =>
          exact fun empty => given (List.append_eq_nil_iff.mp (Check.refused.inj empty)).1

theorem map {image : α → β} (reports : check.Reports) : (image <$> check).Reports :=
  seq (pure image) reports

theorem within (part : Text) (reports : check.Reports) : (check.within part).Reports := by
  cases check with
  | accepted value => nofun
  | refused problems =>
      exact fun empty => reports (congrArg _ (List.map_eq_nil_iff.mp (Check.refused.inj empty)))

private theorem addField (reports : check.Reports) : check.addField.Reports := by
  cases check with
  | accepted value => nofun
  | refused problems => exact fun empty => reports (congrArg _ (Check.refused.inj empty))

theorem coerced (reports : check.Reports) : check.coerced.Reports := by
  cases check with
  | accepted value => nofun
  | refused problems => exact fun empty => reports (congrArg _ (Check.refused.inj empty))

private theorem each {check : α → Check β} (reports : ∀ item, (check item).Reports) (items : List α)
    (position : Nat) : (Check.each check position items).Reports := by
  induction items generalizing position with
  | nil => exact pure []
  | cons item rest induction => exact seq ((reports item).within _).map (induction _)

end Check.Reports

/-! ## Scalars -/

theorem reports_checkText (value : Value) : (checkText value).Reports := by
  unfold checkText
  split
  · exact .pure _
  · split
    · exact (Check.Reports.pure _).coerced
    · exact .refuse _
  · exact .refuse _

private theorem reports_checkTruthWord (word : List Char) : (checkTruthWord word).Reports := by
  unfold checkTruthWord
  split
  · exact .pure _
  · exact .refuse _

private theorem reports_checkTruthNumber (number : Int) : (checkTruthNumber number).Reports := by
  unfold checkTruthNumber
  split_ifs
  · exact .pure _
  · exact .pure _
  · exact .refuse _
  · exact .refuse _

private theorem reports_checkTruth (value : Value) : (checkTruth value).Reports := by
  cases value with
  | bool value => exact .pure _
  | text word =>
      rw [checkTruth]
      split
      · exact (reports_checkTruthWord _).coerced
      · exact .refuse _
  | octets word =>
      rw [checkTruth]
      split
      · exact (reports_checkTruthWord _).coerced
      · exact .refuse _
  | int number => exact (reports_checkTruthNumber number).coerced
  | real number =>
      rw [checkTruth]
      split
      · split
        · exact .refuse _
        · exact (reports_checkTruthNumber _).coerced
      · exact .refuse _
  | _ => exact .refuse _

private theorem reports_checkKind (value : Value) : (checkKind value).Reports := by
  unfold checkKind
  split
  · split
    · exact (Check.Reports.pure _).coerced
    · exact .refuse _
  · exact .refuse _

/-! ## Collections, fields and models -/

section

variable {α : Type} {check : Value → Check α}

theorem reports_checkList (reports : ∀ value, (check value).Reports) (value : Value) :
    (checkList check value).Reports := by
  unfold checkList
  split
  · exact .each reports _ 0
  · exact (Check.Reports.each reports _ 0).coerced
  · exact (Check.Reports.each reports _ 0).coerced
  · exact .refuse _

private theorem reports_checkEntries (reports : ∀ value, (check value).Reports)
    (entries : List (Value × Value)) : (checkEntries check entries).Reports := by
  induction entries with
  | nil => exact .pure _
  | cons entry rest induction =>
      have ofName := (reports_checkText entry.1).within "[key]" |>.within (locationOf entry.1)
      exact ofName.map.seq ((reports entry.2).within _) |>.seq induction

theorem reports_checkMapping (reports : ∀ value, (check value).Reports) (value : Value) :
    (checkMapping check value).Reports := by
  unfold checkMapping
  split
  · exact reports_checkEntries reports _
  · exact .refuse _

theorem reports_optionalField (reports : ∀ value, (check value).Reports)
    (entries : List (Value × Value)) (names : List Text) :
    (optionalField entries names check).Reports := by
  have orNull (value : Value) : (orNull check value).Reports := by
    rw [orNull.eq_def]
    split
    · exact .pure _
    · exact (reports _).map
  unfold optionalField
  split
  · exact ((orNull _).within _).addField
  · exact .pure _

private theorem reports_requiredField (reports : ∀ value, (check value).Reports)
    (entries : List (Value × Value)) (names : List Text) :
    (requiredField entries names check).Reports := by
  unfold requiredField
  split
  · exact ((reports _).within _).addField
  · exact (Check.Reports.refuse _).within _

variable {check : List (Value × Value) → Check α}

theorem reports_checkModel (model : Text) (reports : ∀ entries, (check entries).Reports)
    (value : Value) : (checkModel model check value).Reports := by
  unfold checkModel
  split
  · exact reports _
  · exact .refuse _

private theorem reports_checkReference (value : Value) : (checkReference value).Reports :=
  reports_checkModel _ (fun entries => reports_requiredField reports_checkText entries _) value

/-- A refusal holds at least what is wrong with the data as a reference. -/
theorem reports_checkOrReference (model : Text) (value : Value) :
    (checkOrReference model check value).Reports := by
  unfold checkOrReference
  split
  · split <;> nofun
  · nofun
  · nofun
  · rename_i problems more ofReference _
    intro empty
    obtain ⟨first, -⟩ := List.append_eq_nil_iff.mp (Check.refused.inj empty)
    rw [List.map_eq_nil_iff] at first
    exact reports_checkReference value (ofReference.trans (congrArg _ first))

end

/-! ## Schemas -/

private theorem reports_checkSchema {checkPart : Value → Check Node}
    (reports : ∀ value, (checkPart value).Reports) (value : Value) :
    (checkSchema checkPart value).Reports := by
  refine reports_checkModel "Schema" (fun entries => ?_) value
  have field {α : Type} {check : Value → Check α} (name : Text)
      (reports : ∀ value, (check value).Reports) :
      (optionalField (collapseKinds entries) [name] check).Reports :=
    reports_optionalField reports _ _
  exact (field "title" reports_checkText).map
    |>.seq (field "type" reports_checkKind)
    |>.seq (field "format" reports_checkText)
    |>.seq (field "enum" (reports_checkList .pure))
    |>.seq (field "items" reports)
    |>.seq (field "properties" (reports_checkMapping reports))
    |>.seq (field "required" (reports_checkList reports_checkText))
    |>.seq (field "nullable" reports_checkTruth)
    |>.seq (field "description" reports_checkText)
    |>.seq (field "default" .pure)
    |>.seq (field "deprecated" reports_checkTruth)

private theorem reports_checkNodeWithin (entered : List Nat) (depth : Nat) (value : Value) :
    (checkNodeWithin entered depth value).Reports := by
  have either (value : Value) {inside : Check Node} (reports : inside.Reports) :
      (if isReference value then (Node.reference <$> checkReference value).within "ref"
        else inside.within "schema").Reports := by
    split
    · exact (reports_checkReference value).map.within _
    · exact reports.within _
  induction depth generalizing entered value with
  | zero => exact either value (.refuse _)
  | succ depth induction =>
      cases value with
      | cycle name content =>
          rw [checkNodeWithin]
          refine either _ ?_
          split
          · exact .refuse _
          · exact reports_checkSchema (induction _) _
      | _ =>
          rw [checkNodeWithin]
          · exact either _ (reports_checkSchema (induction _) _)
          · exact nofun

private theorem reports_checkNode (value : Value) : (checkNode value).Reports :=
  reports_checkNodeWithin [] greatestDepth value

/-! ## Parts of documents -/

private theorem reports_checkParameters (value : Value) : (checkParameters value).Reports :=
  reports_checkList (reports_checkOrReference _) value

private theorem reports_checkOperation (entries : List (Value × Value)) :
    (checkOperation entries).Reports :=
  (reports_optionalField (reports_checkList reports_checkText) entries _).map
    |>.seq (reports_optionalField reports_checkText entries _)
    |>.seq (reports_optionalField reports_checkText entries _)
    |>.seq (reports_optionalField reports_checkText entries _)
    |>.seq (reports_optionalField reports_checkParameters entries _)
    |>.seq (reports_optionalField (reports_checkOrReference "RequestBody") entries _)
    |>.seq (reports_optionalField reports_checkTruth entries _)

private theorem reports_checkPathItem (entries : List (Value × Value)) :
    (checkPathItem entries).Reports :=
  have ofOperations := reports_checkMapping (reports_checkModel "Operation" reports_checkOperation)
  (reports_optionalField reports_checkText entries _).map
    |>.seq (reports_optionalField reports_checkText entries _)
    |>.seq (reports_optionalField reports_checkParameters entries _)
    |>.seq ((ofOperations (operationsOf entries)).within _)

private theorem reports_checkComponents (entries : List (Value × Value)) :
    (checkComponents entries).Reports :=
  have ofParameters := reports_checkMapping
    (reports_checkOrReference "Parameter")
  have ofBodies := reports_checkMapping
    (reports_checkOrReference "RequestBody")
  (reports_optionalField (reports_checkMapping reports_checkNode) entries _).map
    |>.seq (reports_optionalField ofParameters entries _)
    |>.seq (reports_optionalField ofBodies entries _)

private theorem reports_checkInfo (entries : List (Value × Value)) : (checkInfo entries).Reports :=
  (reports_optionalField reports_checkText entries _).map
    |>.seq (reports_optionalField reports_checkText entries _)
    |>.seq (reports_optionalField reports_checkText entries _)

theorem reports_checkDocument (value : Value) : (checkDocument value).Reports := by
  refine reports_checkModel "OpenAPI" (fun entries => ?_) value
  have ofPaths := reports_checkMapping (reports_checkModel "PathItem" reports_checkPathItem)
  have ofComponents := reports_checkModel "Components" reports_checkComponents
  exact (reports_optionalField reports_checkText entries _).map
    |>.seq (reports_optionalField (reports_checkModel "Info" reports_checkInfo) entries _)
    |>.seq (reports_optionalField ofPaths entries _)
    |>.seq (reports_optionalField ofComponents entries _)

/-! ## Versions -/

/-- A field that is there and not null has a value. -/
theorem isSome_optionalField {α : Type} {check : Value → Check α} {entries : List (Value × Value)}
    {name : Text} {value : Value} (given : Value.lookup name entries = some value)
    (notNull : value ≠ .null) :
    (optionalField entries [name] check).Ensures fun result => result.isSome := by
  have found : lookupAmong entries [name] = some (name, value) := by rw [lookupAmong, given]
  rw [optionalField, found]
  refine Check.Ensures.within name ?_ |>.addField
  rw [orNull.eq_2 check value notNull]
  exact (Check.Ensures.any _).map fun _ _ => rfl

theorem isSome_openapi {data version : Value} {entries : List (Value × Value)}
    (mapping : data.opened = .map entries) (given : Value.lookup "openapi" entries = some version)
    (notNull : version ≠ .null) :
    (checkDocument data).Ensures fun document => document.openapi.isSome := by
  rw [checkDocument, checkModel, mapping]
  refine .seq (.seq (.seq (.map (isSome_optionalField given notNull) ?_) (.any _)) (.any _))
    (.any _)
  exact fun version given _ _ _ _ _ _ => given

end ApiClient
