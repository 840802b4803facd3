import ApiClient.Proofs.Settings.References
import ApiClient.Settings.Discovery

/-! What expansion makes of texts and data. A text becomes what stands for its parts, in one
pass; the first part for which nothing stands is the reason for a failure. In data every text is
expanded where it stands, and nothing else changes. -/

namespace ApiClient.Expansion

/-! ## Texts -/

/-- What stands for a part of a text: a character for itself, and for a reference the value of
its variable, or else the fallback. -/
inductive Stands (environment : Environment) : Part → Text → Prop where
  | plain (c : CodePoint) : Stands environment (.plain c) [c]
  | value {reference : Reference} {value : Text}
      (encodable : Text.Utf8.unencodable? reference.name = none)
      (isSet : environment.value? reference.name = some value) :
      Stands environment (.reference reference) value
  | fallback {reference : Reference} {text : Text}
      (encodable : Text.Utf8.unencodable? reference.name = none)
      (isUnset : environment.value? reference.name = none)
        (given : reference.fallback = some text) :
      Stands environment (.reference reference) text

/-- Why nothing stands for a part of a text. -/
inductive Hinders (environment : Environment) : Part → Obstacle → Prop where
  | unset {reference : Reference} (encodable : Text.Utf8.unencodable? reference.name = none)
      (isUnset : environment.value? reference.name = none) (alone : reference.fallback = none) :
      Hinders environment (.reference reference) (.unset reference.name)
  | unencodable {reference : Reference} {fault : Text.Utf8.Unencodable}
      (isFault : Text.Utf8.unencodable? reference.name = some fault) :
      Hinders environment (.reference reference) (.unencodable fault)

section

variable {environment : Environment} {part : Part} {text : Text} {obstacle : Obstacle}

private theorem value_eq_ok_iff {value : Text} :
    Part.value environment part = .ok value ↔ Stands environment part value := by
  constructor
  · intro stands
    cases part with
    | plain c =>
        cases stands
        exact .plain c
    | reference reference =>
        rw [Part.value] at stands
        split at stands
        · cases stands
        · rename_i encodable found
          cases stands
          rcases Option.or_eq_some_iff.mp found with isSet | ⟨isUnset, given⟩
          · exact .value encodable isSet
          · exact .fallback encodable isUnset given
        · cases stands
  · intro stands
    cases stands with
    | plain c => rfl
    | value encodable isSet => rw [Part.value, encodable, isSet]; rfl
    | fallback encodable isUnset given => rw [Part.value, encodable, isUnset, given]; rfl

private theorem value_eq_error_iff :
    Part.value environment part = .error obstacle ↔ Hinders environment part obstacle := by
  constructor
  · intro hinders
    cases part with
    | plain c => cases hinders
    | reference reference =>
        rw [Part.value] at hinders
        split at hinders
        · rename_i isFault
          cases hinders
          exact .unencodable isFault
        · cases hinders
        · rename_i encodable nothing
          cases hinders
          obtain ⟨isUnset, alone⟩ := Option.or_eq_none_iff.mp nothing
          exact .unset encodable isUnset alone
  · intro hinders
    cases hinders with
    | unset encodable isUnset alone => rw [Part.value, encodable, isUnset, alone]; rfl
    | unencodable isFault => rw [Part.value, isFault]

private theorem expand_eq_ok_iff {result : Text} :
    expand environment text = .ok result ↔
      ∃ parts values, Reads text parts ∧ List.Forall₂ (Stands environment) parts values ∧
        values.flatten = result := by
  have each (parts : List Part) (values : List Text) :
      parts.mapM (Part.value environment) = .ok values ↔
        List.Forall₂ (Stands environment) parts values := by
    simp only [mapM_eq_ok_iff, value_eq_ok_iff]
  rw [expand, bind_eq_ok_iff]
  constructor
  · rintro ⟨values, stand, ⟨⟩⟩
    exact ⟨_, values, reads_namedParts text, (each _ _).mp stand, rfl⟩
  · rintro ⟨parts, values, reads, stand, rfl⟩
    rw [← reads_iff.mp reads] at stand
    exact ⟨values, (each _ _).mpr stand, rfl⟩

private theorem expand_eq_error_iff :
    expand environment text = .error obstacle ↔
      ∃ before part after, Reads text (before ++ part :: after) ∧
        (∀ other ∈ before, ∃ value, Stands environment other value) ∧
        Hinders environment part obstacle := by
  have fails : expand environment text = .error obstacle ↔
      (namedParts text).mapM (Part.value environment) = .error obstacle := by
    rw [expand, bind_eq_error_iff]
    exact or_iff_left nofun
  simp only [fails, mapM_eq_error_iff, reads_iff, value_eq_ok_iff, value_eq_error_iff]

end

/-! ## Data -/

/-- Whether there can be texts in data, or whether it is kept as it is. -/
def isKept : Value → Bool
  | .text _ | .list _ | .map _ | .cycle _ _ | .again _ _ => false
  | _ => true

/-- Data with every text expanded. Lists keep their lengths, and mappings their keys. -/
inductive Expands (environment : Environment) : Value → Value → Prop where
  | text {text expanded : Text} (expands : expand environment text = .ok expanded) :
      Expands environment (.text text) (.text expanded)
  | list {items results : List Value} (each : List.Forall₂ (Expands environment) items results) :
      Expands environment (.list items) (.list results)
  | map {entries results : List (Value × Value)} (keys : results.map (·.1) = entries.map (·.1))
      (each : List.Forall₂ (Expands environment) (entries.map (·.2)) (results.map (·.2))) :
      Expands environment (.map entries) (.map results)
  | cycle {name : Nat} {content result : Value} (opened : Expands environment content result) :
      Expands environment (.cycle name content) result
  | kept {value : Value} (plain : isKept value) : Expands environment value value

section

variable {environment : Environment}

namespace Expands

variable {result : Value}

private theorem text_iff {text : Text} :
    Expands environment (.text text) result ↔
      ∃ expanded, expand environment text = .ok expanded ∧ .text expanded = result := by
  constructor
  · intro expands
    cases expands with
    | text expands => exact ⟨_, expands, rfl⟩
    | kept plain => cases plain
  · rintro ⟨expanded, expands, rfl⟩
    exact .text expands

private theorem list_iff {items : List Value} :
    Expands environment (.list items) result ↔
      ∃ results, List.Forall₂ (Expands environment) items results ∧ .list results = result := by
  constructor
  · intro expands
    cases expands with
    | list each => exact ⟨_, each, rfl⟩
    | kept plain => cases plain
  · rintro ⟨results, each, rfl⟩
    exact .list each

private theorem map_iff {entries : List (Value × Value)} :
    Expands environment (.map entries) result ↔
      ∃ results : List (Value × Value), (results.map (·.1) = entries.map (·.1) ∧
        List.Forall₂ (Expands environment) (entries.map (·.2)) (results.map (·.2))) ∧
        .map results = result := by
  constructor
  · intro expands
    cases expands with
    | map keys each => exact ⟨_, ⟨keys, each⟩, rfl⟩
    | kept plain => cases plain
  · rintro ⟨results, ⟨keys, each⟩, rfl⟩
    exact .map keys each

private theorem cycle_iff {name : Nat} {content : Value} :
    Expands environment (.cycle name content) result ↔ Expands environment content result := by
  constructor
  · intro expands
    cases expands with
    | cycle opened => exact opened
    | kept plain => cases plain
  · exact .cycle

/-- Data that begins anew inside itself has no end to expand to. -/
theorem not_again {name : Nat} {shape : Shape} :
    ¬Expands environment (.again name shape) result := by
  intro expands
  cases expands with
  | kept plain => cases plain

private theorem iff_of_isKept {value : Value} (plain : isKept value) :
    Expands environment value result ↔ value = result := by
  constructor
  · intro expands
    cases expands with
    | kept _ => rfl
    | _ => cases plain
  · rintro rfl
    exact .kept plain

end Expands

private theorem expandData_of_isKept {value : Value} (plain : isKept value) :
    expandData environment value = .ok value := by
  cases value with
  | text _ | list _ | map _ | cycle _ _ | again _ _ => cases plain
  | _ => rw [expandData] <;> nofun

mutual

theorem expandData_eq_ok_iff (value result : Value) :
    expandData environment value = .ok result ↔ Expands environment value result := by
  cases value with
  | text text => rw [expandData, map_eq_ok_iff, Expands.text_iff]
  | list items =>
      rw [expandData, map_eq_ok_iff, Expands.list_iff]
      exact exists_congr fun results => and_congr_left' (expandItems_eq_ok_iff items results)
  | map entries =>
      rw [expandData, map_eq_ok_iff, Expands.map_iff]
      exact exists_congr fun results => and_congr_left' (expandEntries_eq_ok_iff entries results)
  | cycle name content =>
      rw [expandData, expandData_eq_ok_iff content result, Expands.cycle_iff]
  | again name shape =>
      rw [expandData]
      exact iff_of_false nofun Expands.not_again
  | _ => rw [expandData_of_isKept rfl, Expands.iff_of_isKept rfl, Except.ok.injEq]

theorem expandItems_eq_ok_iff (items results : List Value) :
    expandItems environment items = .ok results ↔
    List.Forall₂ (Expands environment) items results := by
  cases items with
  | nil =>
      rw [expandItems, List.forall₂_nil_left_iff]
      exact ⟨fun same => (Except.ok.inj same).symm, fun same => congrArg Except.ok same.symm⟩
  | cons item rest =>
      rw [expandItems, bind_eq_ok_iff]
      constructor
      · rintro ⟨first, ofItem, succeeds⟩
        obtain ⟨others, ofRest, ⟨⟩⟩ := exists_of_bind_eq_ok succeeds
        exact .cons ((expandData_eq_ok_iff item first).mp ofItem)
          ((expandItems_eq_ok_iff rest others).mp ofRest)
      · rintro (_ | ⟨ofItem, ofRest⟩)
        refine ⟨_, (expandData_eq_ok_iff item _).mpr ofItem, ?_⟩
        rw [(expandItems_eq_ok_iff rest _).mpr ofRest]
        rfl

theorem expandEntries_eq_ok_iff (entries results : List (Value × Value)) :
    expandEntries environment entries = .ok results ↔ results.map (·.1) = entries.map (·.1) ∧
      List.Forall₂ (Expands environment) (entries.map (·.2)) (results.map (·.2)) := by
  cases entries with
  | nil =>
      rw [expandEntries]
      constructor
      · rintro ⟨⟩
        exact ⟨rfl, .nil⟩
      · rintro ⟨keys, -⟩
        rw [List.map_eq_nil_iff.mp keys]
  | cons entry rest =>
      obtain ⟨key, value⟩ := entry
      rw [expandEntries, bind_eq_ok_iff]
      constructor
      · rintro ⟨first, ofValue, succeeds⟩
        obtain ⟨others, ofRest, ⟨⟩⟩ := exists_of_bind_eq_ok succeeds
        obtain ⟨keys, each⟩ := (expandEntries_eq_ok_iff rest others).mp ofRest
        exact ⟨congrArg (key :: ·) keys, .cons ((expandData_eq_ok_iff value first).mp ofValue) each⟩
      · rintro ⟨keys, each⟩
        obtain _ | ⟨⟨resultKey, first⟩, others⟩ := results
        · cases keys
        obtain ⟨rfl, further⟩ := List.cons.inj keys
        obtain _ | ⟨ofValue, ofRest⟩ := each
        refine ⟨first, (expandData_eq_ok_iff value first).mpr ofValue, ?_⟩
        rw [(expandEntries_eq_ok_iff rest others).mpr ⟨further, ofRest⟩]
        rfl

end

end

/-! ### Failures -/

mutual

/-- The texts of data, in their order. There is none at a place where data begins anew. -/
def sites : Value → List (Option Text)
  | .text text => [some text]
  | .list items => sitesOfItems items
  | .map entries => sitesOfEntries entries
  | .cycle _ content => sites content
  | .again _ _ => [none]
  | _ => []

def sitesOfItems : List Value → List (Option Text)
  | [] => []
  | item :: rest => sites item ++ sitesOfItems rest

def sitesOfEntries : List (Value × Value) → List (Option Text)
  | [] => []
  | (_, value) :: rest => sites value ++ sitesOfEntries rest

end

/-- What comes of a place in data. -/
def expandSite (environment : Environment) : Option Text → Except Obstacle Text
  | some text => expand environment text
  | none => .error .endless

section

variable {environment : Environment}

mutual

/-- Data is expanded if all its texts are, and fails as the first of them does. -/
theorem agree_expandData (value : Value) :
    Agree (fun _ _ => True) (expandData environment value)
      ((sites value).mapM (expandSite environment)) := by
  cases value with
  | text text =>
      rw [expandData, sites, List.mapM_cons, List.mapM_nil, expandSite]
      cases expand environment text with
      | error obstacle => exact .failure obstacle
      | ok expanded => exact .success trivial
  | list items =>
      rw [expandData, sites, ← id_map (List.mapM _ (sitesOfItems items))]
      exact (agree_expandItems items).map fun _ => trivial
  | map entries =>
      rw [expandData, sites, ← id_map (List.mapM _ (sitesOfEntries entries))]
      exact (agree_expandEntries entries).map fun _ => trivial
  | cycle name content =>
      rw [expandData, sites]
      exact agree_expandData content
  | again name shape =>
      rw [expandData, sites]
      exact .failure Obstacle.endless
  | _ =>
      rw [expandData_of_isKept rfl]
      exact .success trivial

theorem agree_expandItems (items : List Value) :
    Agree (fun _ _ => True) (expandItems environment items)
      ((sitesOfItems items).mapM (expandSite environment)) := by
  cases items with
  | nil => exact .success trivial
  | cons item rest =>
      rw [expandItems, sitesOfItems, List.mapM_append]
      exact (agree_expandData item).bind fun _ =>
        (agree_expandItems rest).bind fun _ => .success trivial

theorem agree_expandEntries (entries : List (Value × Value)) :
    Agree (fun _ _ => True) (expandEntries environment entries)
      ((sitesOfEntries entries).mapM (expandSite environment)) := by
  cases entries with
  | nil => exact .success trivial
  | cons entry rest =>
      obtain ⟨key, value⟩ := entry
      rw [expandEntries, sitesOfEntries, List.mapM_append]
      exact (agree_expandData value).bind fun _ =>
        (agree_expandEntries rest).bind fun _ => .success trivial

end

private theorem expandData_eq_error_iff {value : Value} {obstacle : Obstacle} :
    expandData environment value = .error obstacle ↔
      ∃ before site after, sites value = before ++ site :: after ∧
        (∀ other ∈ before, ∃ expanded, expandSite environment other = .ok expanded) ∧
        expandSite environment site = .error obstacle := by
  rw [← mapM_eq_error_iff]
  have agree := @agree_expandData environment value
  generalize expandData environment value = outcome at agree ⊢
  generalize (sites value).mapM (expandSite environment) = others at agree ⊢
  cases agree with
  | success _ => exact ⟨nofun, nofun⟩
  | failure reason => rw [Except.error.injEq, Except.error.injEq]

end

/-! ## All expansions -/

/-- Only a variable that is not set is reported as a fault of the settings. -/
theorem obstacleFailure_eq_configuration_iff {obstacle : Obstacle} {message : Text} :
    Settings.obstacleFailure obstacle = .fault (.configuration message none none) ↔
      ∃ name, obstacle = .unset name ∧
        "Environment variable " ++ name ++ " is not set" = message := by
  constructor
  · intro same
    cases obstacle with
    | unencodable fault => cases same
    | endless => cases same
    | unset name =>
        cases same
        exact ⟨name, rfl, rfl⟩
  · rintro ⟨name, rfl, rfl⟩
    rfl

/-- Expansion is one pass from the left. A text has one reading, and becomes what stands for
its parts, one after the other; what stands for a part is not read again. It fails at the
first part for which nothing stands: at a variable that is not set, without a fallback, with
a message that names it, or at a name that no variable can have. Data is expanded text by
text, with nothing else changed, and fails as the first text does that cannot be expanded, or
where the data begins anew. -/
theorem expansion_reads (environment : Environment) :
    (∀ text, ∃! parts, Reads text parts) ∧
    (∀ text result, expand environment text = .ok result ↔
      ∃ parts values, Reads text parts ∧ List.Forall₂ (Stands environment) parts values ∧
        values.flatten = result) ∧
    (∀ text obstacle, expand environment text = .error obstacle ↔
      ∃ before part after, Reads text (before ++ part :: after) ∧
        (∀ other ∈ before, ∃ value, Stands environment other value) ∧
        Hinders environment part obstacle) ∧
    (∀ text message,
      (expand environment text).mapError Settings.obstacleFailure =
          .error (.fault (.configuration message none none)) ↔
        ∃ before reference after, Reads text (before ++ .reference reference :: after) ∧
          (∀ other ∈ before, ∃ value, Stands environment other value) ∧
          Hinders environment (.reference reference) (.unset reference.name) ∧
          "Environment variable " ++ reference.name ++ " is not set" = message) ∧
    (∀ value result, expandData environment value = .ok result ↔ Expands environment value result) ∧
    (∀ value obstacle, expandData environment value = .error obstacle ↔
      ∃ before site after, sites value = before ++ site :: after ∧
        (∀ other ∈ before, ∃ expanded, expandSite environment other = .ok expanded) ∧
        expandSite environment site = .error obstacle) := by
  refine ⟨fun text => ⟨namedParts text, reads_namedParts text, ?_⟩,
    fun text result => expand_eq_ok_iff, fun text obstacle => expand_eq_error_iff,
    fun text message => ?_, expandData_eq_ok_iff, fun value obstacle => expandData_eq_error_iff⟩
  · intro other reads
    exact (reads_iff.mp reads).symm
  · rw [mapError_eq_error_iff]
    simp only [obstacleFailure_eq_configuration_iff]
    constructor
    · rintro ⟨_, fails, name, rfl, worded⟩
      obtain ⟨before, part, after, reads, stand, hinders⟩ := expand_eq_error_iff.mp fails
      cases hinders with
      | unset encodable isUnset alone =>
          exact ⟨before, _, after, reads, stand, .unset encodable isUnset alone, worded⟩
    · rintro ⟨before, reference, after, reads, stand, hinders, worded⟩
      exact ⟨_, expand_eq_error_iff.mpr ⟨before, _, after, reads, stand, hinders⟩, _, rfl, worded⟩

/-- A name that no variable can have hinders the expansion although a fallback is given. -/
theorem expansion_unencodable :
    let reference : Reference := ⟨[.surrogate 0x3d], some "x"⟩
    let text : Text := "$\x7b" ++ ([.surrogate 0x3d] : Text) ++ ":-x\x7d"
    Reads text [.reference reference] ∧ Environment.value? [] reference.name = none ∧
      expand [] text = .error (.unencodable ⟨.surrogate 0x3d, 0, 1⟩) := by
  intro reference text
  have proper : reference.IsProper := by
    refine ⟨⟨?_, ?_⟩, nofun⟩
    · decide
    · decide
  have reads : Reads text [.reference reference] := .reference proper .done
  refine ⟨reads, rfl, expand_eq_error_iff.mpr ⟨[], _, [], reads, nofun, .unencodable ?_⟩⟩
  decide

end ApiClient.Expansion
