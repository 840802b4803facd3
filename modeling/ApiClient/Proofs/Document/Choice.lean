import ApiClient.Proofs.Document.Origin

/-! The choice between a reference and a part given in place. Data with a pointer is read as a part
where it has all that the part asks for, and in sum more than one field. A parameter asks for two
fields; a request body asks for none, so that it takes two fields beside the pointer. -/

namespace ApiClient

/-! ## Counting fields -/

/-- The number of fields given has a property, where a check accepts. -/
def Check.Counts {α : Type} (check : Check α) (property : Nat → Prop) : Prop :=
  match check with
  | .accepted _ fields _ => property fields
  | .refused _ => True

namespace Check.Counts

variable {α β : Type} {first second property : Nat → Prop} {check : Check α}

private theorem any (check : Check α) : check.Counts fun _ => True := by
  cases check <;> trivial

private theorem of_accepted {part : α} {fields : Nat} {isExact : Bool}
    (counts : check.Counts property) (accepted : check = .accepted part fields isExact) :
    property fields := by
  rw [accepted] at counts
  exact counts

theorem imp {other : Nat → Prop} (counts : check.Counts property)
    (implies : ∀ fields, property fields → other fields) : check.Counts other := by
  cases check with
  | refused problems => trivial
  | accepted part fields => exact implies fields counts

theorem refuse (complaint : Complaint) : (Check.refuse complaint : Check α).Counts property :=
  trivial

theorem pure {part : α} (holds : property 0) : (Pure.pure part : Check α).Counts property :=
  holds

/-- The fields of two checks together are those of one and those of the other. -/
theorem seq {checks : Check (α → β)} (ofFirst : checks.Counts first)
    (ofSecond : check.Counts second) : (checks <*> check).Counts fun fields =>
      ∃ m n, first m ∧ second n ∧ fields = m + n := by
  cases checks with
  | refused problems => cases check <;> trivial
  | accepted image m =>
      cases check with
      | refused problems => trivial
      | accepted part n => exact ⟨m, n, ofFirst, ofSecond, rfl⟩

theorem map (image : α → β) (counts : check.Counts property) :
    (image <$> check).Counts property := by
  have none : (Pure.pure image : Check (α → β)).Counts (· = 0) := pure rfl
  refine (seq none counts).imp ?_
  rintro fields ⟨m, n, rfl, holds, rfl⟩
  rwa [Nat.zero_add]

theorem within (part : Text) (counts : check.Counts property) :
    (check.within part).Counts property := by
  cases check with
  | refused problems => trivial
  | accepted part => exact counts

private theorem coerced (counts : check.Counts property) : check.coerced.Counts property := by
  cases check with
  | refused problems => trivial
  | accepted part => exact counts

theorem addField (counts : check.Counts fun fields => property (fields + 1)) :
    check.addField.Counts property := by
  cases check with
  | refused problems => trivial
  | accepted part => exact counts

end Check.Counts

private theorem counts_checkText (value : Value) : (checkText value).Counts (· = 0) := by
  rw [checkText.eq_def]
  split
  · exact .pure rfl
  · split
    · exact .coerced (.pure rfl)
    · exact .refuse _
  · exact .refuse _

private theorem counts_checkTruthWord (word : List Char) :
    (checkTruthWord word).Counts (· = 0) := by
  rw [checkTruthWord]
  split
  · exact .pure rfl
  · exact .refuse _

private theorem counts_checkTruthNumber (number : Int) :
    (checkTruthNumber number).Counts (· = 0) := by
  rw [checkTruthNumber]
  split
  · exact .pure rfl
  · split
    · exact .pure rfl
    · split <;> exact .refuse _

private theorem counts_checkTruth (value : Value) : (checkTruth value).Counts (· = 0) := by
  rw [checkTruth.eq_def]
  split
  · exact .pure rfl
  · split
    · exact .coerced (counts_checkTruthWord _)
    · exact .refuse _
  · split
    · exact .coerced (counts_checkTruthWord _)
    · exact .refuse _
  · exact .coerced (counts_checkTruthNumber _)
  · split
    · split
      · exact .refuse _
      · exact .coerced (counts_checkTruthNumber _)
    · exact .refuse _
  · exact .refuse _

/-! ## Fields and mappings -/

/-- Whether an object has a member with a name. -/
def Value.has (value : Value) (name : Text) : Bool :=
  (value.field? name).isSome

private theorem Value.has_of_mem_under {value : Value} {name : Text} {member : Text × Value}
    (isMember : member ∈ (value.under name).members) : value.has name = true := by
  rw [has]
  cases found : value.field? name with
  | none =>
      rw [under, found] at isMember
      exact absurd isMember List.not_mem_nil
  | some content => rfl

section

variable {α : Type} {check : Value → Check α} {property : Nat → Prop} {value : Value}
  {entries : List (Value × Value)}

private theorem counts_orNull (counts : (check value).Counts property)
    (none : value = .null → property 0) :
    (orNull check value).Counts property := by
  rw [orNull.eq_def]
  split
  · exact .pure (none rfl)
  · exact counts.map _

private theorem counts_requiredField (names : List Text) :
    (requiredField entries names check).Counts (0 < ·) := by
  rw [requiredField]
  split
  · refine .addField (.within _ ?_)
    rename_i name value found
    cases check value with
    | accepted part fields => exact Nat.succ_pos fields
    | refused problems => trivial
  · exact (Check.Counts.refuse _).within _

/-- A field without parts counts once if it is there. -/
theorem counts_plainField (plain : ∀ value, (check value).Counts (· = 0)) (name : Text) :
    (optionalField entries [name] check).Counts
      (· = if (Value.map entries).has name then 1 else 0) := by
  rw [optionalField, lookupAmong, Value.has, Value.field?]
  cases Value.lookup name entries with
  | none => exact .pure rfl
  | some content =>
      have counts := counts_orNull (plain content) fun _ => rfl
      refine .addField (.within _ ?_)
      simpa using counts

private theorem counts_checkEntries {given : Value → Prop}
    (named : ∀ entry ∈ entries, ∃ name, entry.1 = .text name)
    (each : ∀ entry ∈ entries, (check entry.2).Counts (0 < · ↔ given entry.2)) :
    (checkEntries check entries).Counts
      (0 < · ↔ ∃ member ∈ (Value.map entries).members, given member.2) := by
  induction entries with
  | nil => exact .pure (by simp [Value.members])
  | cons entry rest induction =>
      obtain ⟨key, content⟩ := entry
      obtain ⟨⟨name, rfl⟩, otherNames⟩ := List.forall_mem_cons.mp named
      obtain ⟨first, others⟩ := List.forall_mem_cons.mp each
      have ofName := (counts_checkText (.text name)).within "[key]"
        |>.within (locationOf (.text name))
      refine ((Check.Counts.map _ ofName).seq (first.within _) |>.seq
        (induction otherNames others)).imp ?_
      rintro fields ⟨_, k, ⟨m, n, rfl, ofContent, rfl⟩, ofRest, rfl⟩
      rw [Nat.zero_add, Nat.add_pos_iff_pos_or_pos, ofContent, ofRest]
      simp [Value.members]

private theorem counts_checkMapping {given : Value → Prop} (json : value.IsJson)
    (each : ∀ part, part.IsJson → (check part).Counts (0 < · ↔ given part)) :
    (checkMapping check value).Counts (0 < · ↔ ∃ member ∈ value.members, given member.2) := by
  rw [checkMapping, json.opened_eq]
  cases json with
  | map distinct named ofParts =>
      exact counts_checkEntries named fun entry member => each _ (ofParts entry member)
  | _ => exact .refuse _

theorem counts_checkModel {check : List (Value × Value) → Check α} (model : Text)
    (json : value.IsJson)
    (counts : ∀ entries, value = .map entries → (check entries).Counts property) :
    (checkModel model check value).Counts property := by
  rw [checkModel, json.opened_eq]
  cases json with
  | map distinct named each => exact counts _ rfl
  | _ => exact .refuse _

end

/-! ## Parameters and request bodies -/

def Value.HasSchema (media : Value) : Prop :=
  media.has "schema" ∨ media.has "schema_"

/-- The names of the fields of a request body. -/
def requestBodyFields : List Text :=
  ["description", "content", "required"]

/-- The data of a request body gives two of its fields, or one that has fields in turn. -/
def Value.IsDetailed (body : Value) : Prop :=
  1 < requestBodyFields.countP body.has ∨
    ∃ media ∈ (body.under "content").members, media.2.HasSchema

section

variable {value : Value} {entries : List (Value × Value)}

private theorem counts_checkMediaType (json : value.IsJson) :
    (checkModel "MediaType" checkMediaType value).Counts (0 < · ↔ value.HasSchema) := by
  refine counts_checkModel _ json ?_
  rintro entries rfl
  refine .map _ ?_
  rw [Value.HasSchema, Value.has, Value.has, Value.field?, Value.field?, optionalField, lookupAmong,
    lookupAmong, lookupAmong]
  have counted (name : Text) (content : Value) :
      ((orNull checkNode content).within name).addField.Counts (0 < ·) := by
    refine .addField (.within _ ?_)
    cases orNull checkNode content with
    | accepted part fields => exact Nat.succ_pos fields
    | refused problems => trivial
  cases Value.lookup "schema" entries with
  | some content => simpa using counted "schema" content
  | none =>
      cases Value.lookup "schema_" entries with
      | some content => simpa using counted "schema_" content
      | none => exact .pure (by simp)

private theorem counts_content (json : (Value.map entries).IsJson) :
    (optionalField entries ["content"]
      (checkMapping (checkModel "MediaType" checkMediaType))).Counts
      fun fields => ∃ inner, fields = (if (Value.map entries).has "content" then 1 else 0) + inner ∧
        (0 < inner ↔ ∃ media ∈ ((Value.map entries).under "content").members,
          media.2.HasSchema) := by
  have ofContent := json.under "content"
  rw [Value.under, Value.field?] at ofContent ⊢
  rw [optionalField, lookupAmong, Value.has, Value.field?]
  cases found : Value.lookup "content" entries with
  | none => exact .pure ⟨0, by simp [Value.members]⟩
  | some content =>
      rw [found] at ofContent
      have counts := counts_orNull (counts_checkMapping ofContent fun part => counts_checkMediaType)
        (by rintro ⟨⟩; simp [Value.members])
      refine .addField (.within _ ?_)
      exact counts.imp fun fields holds => ⟨fields, by simp [Nat.add_comm], holds⟩

private theorem counts_checkRequestBody (json : value.IsJson) :
    (checkModel "RequestBody" checkRequestBody value).Counts (1 < · ↔ value.IsDetailed) := by
  refine counts_checkModel _ json ?_
  rintro entries rfl
  refine ((Check.Counts.map _ (counts_plainField counts_checkText "description")).seq
    (counts_content json) |>.seq (counts_plainField counts_checkTruth "required")).imp ?_
  rintro fields ⟨_, k, ⟨m, n, ofDescription, ⟨inner, ofContent, ofMedia⟩, rfl⟩, ofRequired, rfl⟩
  have content (some : 0 < inner) : (if (Value.map entries).has "content" then 1 else 0) = 1 := by
    obtain ⟨media, member, -⟩ := ofMedia.mp some
    exact if_pos (Value.has_of_mem_under member)
  rw [Value.IsDetailed, ← ofMedia, ofDescription, ofContent, ofRequired]
  simp only [requestBodyFields, List.countP_cons, List.countP_nil]
  omega

private theorem counts_checkParameter (entries : List (Value × Value)) :
    (checkParameter entries).Counts (1 < ·) := by
  refine ((Check.Counts.map _ (counts_requiredField ["name"])).seq
    (counts_requiredField ["in", "in_"]) |>.seq (.any _) |>.seq (.any _) |>.seq (.any _)
    |>.seq (.any _)).imp ?_
  rintro _ ⟨_, _, ⟨_, _, ⟨_, _, ⟨_, _, ⟨m, n, ofName, ofPlace, rfl⟩, -, rfl⟩, -, rfl⟩, -, rfl⟩, -,
    rfl⟩
  omega

end

/-! ## The choice -/

/-- A node that has a pointer is a reference, unless something fits as the part given in place. -/
structure IsChosen {α : Type} (pointer : Text) (fits : α → Prop) (node : OrReference α) : Prop where
  direct : ∀ part, node = .direct part ↔ fits part
  reference : node = .reference pointer ↔ ∀ part, ¬ fits part

namespace IsChosen

variable {α : Type} {pointer : Text} {fits : α → Prop} {part : α}

private theorem of_none (none : ∀ part, ¬ fits part) :
    IsChosen pointer fits (.reference pointer) where
  direct part := ⟨nofun, fun isFit => absurd isFit (none part)⟩
  reference := ⟨fun _ => none, fun _ => rfl⟩

private theorem of_only (only : ∀ other, fits other ↔ part = other) :
    IsChosen pointer fits (.direct part) where
  direct other := by rw [OrReference.direct.injEq, only]
  reference := ⟨nofun, fun none => absurd ((only part).mpr rfl) (none part)⟩

end IsChosen

private theorem Check.gives_accepted_iff {α : Type} {part other : α} {fields : Nat}
    {isExact : Bool} :
    (Check.accepted part fields isExact).Gives other ↔ part = other := by
  constructor
  · rintro ⟨_, _, ⟨⟩⟩
    rfl
  · rintro rfl
    exact ⟨_, _, rfl⟩

section

variable {α : Type} {model : Text} {check : List (Value × Value) → Check α} {value : Value}
  {pointer : Text} {node : OrReference α}

private theorem checkReference_eq (json : value.IsJson)
    (given : value.field? "$ref" = some (.text pointer)) :
    checkReference value = .accepted pointer 1 true := by
  cases json with
  | @map entries distinct named each =>
      rw [Value.field?] at given
      change requiredField entries ["$ref", "ref"] checkText = _
      rw [requiredField, lookupAmong, given]
      rfl
  | _ => cases given

private theorem NodeOrigin.isChosen {detailed : Prop} (origin : NodeOrigin model check value node)
    (given : value.field? "$ref" = some (.text pointer))
    (counts : (checkModel model check value).Counts (1 < · ↔ detailed)) :
    IsChosen pointer (fun part => detailed ∧ (checkModel model check value).Gives part) node := by
  obtain ⟨json, fields, isExact, accepted⟩ := origin
  rw [checkOrReference, checkReference_eq json given] at accepted
  cases found : checkModel model check value with
  | refused problems =>
      rw [found] at accepted
      cases accepted
      refine .of_none ?_
      rintro part ⟨-, _, _, ⟨⟩⟩
  | accepted part count isExact' =>
      rw [found] at accepted
      -- The reference is exact, so that with one field each it is the reference that is taken.
      have more : (count > 1 ∨ (count = 1 ∧ isExact' ∧ !true)) ↔ detailed := by
        rw [← counts.of_accepted found]
        simp
      dsimp only at accepted
      split at accepted
      · rename_i wins
        cases accepted
        refine .of_only fun other => ?_
        rw [Check.gives_accepted_iff, and_iff_right (more.mp wins)]
      · rename_i loses
        cases accepted
        exact .of_none fun part isFit => loses (more.mpr isFit.1)

end

/-! ## Documents -/

def ParameterChoice (value : Value) (node : OrReference Parameter) : Prop :=
  ∀ pointer, value.field? "$ref" = some (.text pointer) →
    IsChosen pointer (checkModel "Parameter" checkParameter value).Gives node

/-- Data with a pointer is read as a request body of its own. -/
def RequestBody.Fits (value : Value) (body : RequestBody) : Prop :=
  value.IsDetailed ∧ (checkModel "RequestBody" checkRequestBody value).Gives body

def BodyChoice (value : Value) (node : OrReference RequestBody) : Prop :=
  ∀ pointer, value.field? "$ref" = some (.text pointer) →
    IsChosen pointer (RequestBody.Fits value) node

/-- The data of the parameters of a document: those of paths and operations, then the components. -/
def Value.parameterNodes (value : Value) : List Value :=
  (value.under "paths").members.flatMap (fun item =>
    (item.2.under "parameters").elements ++
      item.2.operations.flatMap fun operation => (operation.2.under "parameters").elements) ++
    ((value.under "components").under "parameters").members.map (·.2)

def Document.parameterNodes (document : Document) : List (OrReference Parameter) :=
  (document.paths.getD []).flatMap (fun item =>
    item.2.parameters.getD [] ++
      item.2.operations.flatMap fun operation => operation.2.parameters.getD []) ++
    ((document.components.getD {}).parameters.getD []).map (·.2)

/-- The data of the request bodies of a document: those of operations, then the components. -/
def Value.bodyNodes (value : Value) : List Value :=
  (value.under "paths").members.flatMap (fun item =>
    item.2.operations.flatMap fun operation => (operation.2.under "requestBody").given) ++
    ((value.under "components").under "requestBodies").members.map (·.2)

def Document.bodyNodes (document : Document) : List (OrReference RequestBody) :=
  (document.paths.getD []).flatMap (fun item =>
    item.2.operations.flatMap fun operation => operation.2.requestBody.toList) ++
    ((document.components.getD {}).requestBodies.getD []).map (·.2)

namespace Document.IsReadFrom

variable {value : Value} {document : Document}

theorem parameterNodes (origin : document.IsReadFrom value) :
    List.Forall₂ ParameterOrigin value.parameterNodes document.parameterNodes := by
  refine List.rel_append (List.rel_flatMap origin.paths ?_) ?_
  · rintro item result ⟨-, ofItem⟩
    refine List.rel_append ofItem.parameters (List.rel_flatMap ofItem.operations ?_)
    exact fun operation result ofOperation => ofOperation.2.parameters
  · exact List.rel_map (fun _ _ alike => alike.2) origin.components.parameters

theorem bodyNodes (origin : document.IsReadFrom value) :
    List.Forall₂ BodyOrigin value.bodyNodes document.bodyNodes := by
  refine List.rel_append (List.rel_flatMap origin.paths ?_) ?_
  · rintro item result ⟨-, ofItem⟩
    refine List.rel_flatMap ofItem.operations ?_
    exact fun operation result ofOperation => ofOperation.2.requestBody
  · exact List.rel_map (fun _ _ alike => alike.2) origin.components.requestBodies

end Document.IsReadFrom

theorem ParameterOrigin.choice {value : Value} {node : OrReference Parameter}
    (origin : ParameterOrigin value node) : ParameterChoice value node := by
  intro pointer given
  have counts : (checkModel "Parameter" checkParameter value).Counts (1 < · ↔ True) :=
    counts_checkModel _ origin.json fun entries _ =>
      (counts_checkParameter entries).imp fun _ some => iff_true_intro some
  simpa only [true_and] using origin.isChosen given counts

theorem BodyOrigin.choice {value : Value} {node : OrReference RequestBody}
    (origin : BodyOrigin value node) : BodyChoice value node :=
  fun _ given => origin.isChosen given (counts_checkRequestBody origin.json)

end ApiClient
