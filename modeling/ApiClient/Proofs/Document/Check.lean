import ApiClient.Document.Validation
import ApiClient.Proofs.Data.Json
import ApiClient.Proofs.Document.Names
import Mathlib.Data.List.Nodup

/-! What is known of data that a check has accepted. A property of a model follows from
properties of its fields, and these from the checks of the fields, where the data is a value of
JSON. -/

namespace ApiClient

/-- Whatever a check accepts has a property. -/
def Check.Ensures {α : Type} (check : Check α) (property : α → Prop) : Prop :=
  match check with
  | .accepted value _ _ => property value
  | .refused _ => True

namespace Check.Ensures

variable {α β : Type} {property : α → Prop} {further : β → Prop} {check : Check α}

theorem of_accepted {value : α} {fields : Nat} {isExact : Bool} (ensures : check.Ensures property)
    (accepted : check = .accepted value fields isExact) : property value := by
  rw [accepted] at ensures
  exact ensures

/-! ## Building checks -/

theorem any (check : Check α) : check.Ensures fun _ => True := by
  cases check <;> trivial

theorem refuse (complaint : Complaint) : (Check.refuse complaint).Ensures property :=
  trivial

theorem pure {value : α} (holds : property value) : (Pure.pure value : Check α).Ensures property :=
  holds

theorem seq {checks : Check (α → β)}
    (build : checks.Ensures fun image => ∀ value, property value → further (image value))
    (ensures : check.Ensures property) : (checks <*> check).Ensures further := by
  cases checks with
  | refused problems => cases check <;> trivial
  | accepted image =>
      cases check with
      | refused problems => trivial
      | accepted value => exact build value ensures

theorem map {image : α → β} (ensures : check.Ensures property)
    (images : ∀ value, property value → further (image value)) :
    (image <$> check).Ensures further :=
  seq (pure images) ensures

theorem imp {other : α → Prop} (ensures : check.Ensures property)
    (implies : ∀ value, property value → other value) : check.Ensures other := by
  cases check with
  | refused problems => trivial
  | accepted value => exact implies value ensures

theorem within (part : Text) (ensures : check.Ensures property) :
    (check.within part).Ensures property := by
  cases check with
  | refused problems => trivial
  | accepted value => exact ensures

theorem addField (ensures : check.Ensures property) : check.addField.Ensures property := by
  cases check with
  | refused problems => trivial
  | accepted value => exact ensures

theorem each {check : α → Check β} {related : α → β → Prop} {items : List α}
    (ensures : ∀ item ∈ items, (check item).Ensures (related item)) (position : Nat) :
    (Check.each check position items).Ensures (List.Forall₂ related items) := by
  induction items generalizing position with
  | nil => exact pure .nil
  | cons item rest induction =>
      obtain ⟨first, others⟩ := List.forall_mem_cons.mp ensures
      refine seq (map (first.within _) ?_) (induction others _)
      exact fun result holds results hold => .cons holds hold

end Check.Ensures

/-! ## Collections -/

section

variable {α : Type} {property : α → Prop} {check : Value → Check α} {value : Value}
  {entries : List (Value × Value)}

private theorem ensures_checkText (json : value.IsJson) :
    (checkText value).Ensures fun text => value = .text text := by
  cases json with
  | text value => exact .pure rfl
  | _ => exact .refuse _

theorem ensures_checkList (json : value.IsJson)
    (ensures : ∀ item, item.IsJson → (check item).Ensures property) :
    (checkList check value).Ensures fun items => ∀ item ∈ items, property item := by
  rw [checkList, json.opened_eq]
  cases json with
  | list each =>
      refine (Check.Ensures.each (fun item member => ensures item (each item member)) 0).imp ?_
      exact fun results alike => forall_mem_right_of_forall₂ alike fun _ _ _ holds => holds
  | _ => exact .refuse _

/-- An entry of a mapping has its key as its name. -/
theorem ensures_checkEntries (related : Value → α → Prop)
    (named : ∀ entry ∈ entries, ∃ name, entry.1 = .text name)
    (ensures : ∀ entry ∈ entries, (check entry.2).Ensures (related entry.2)) :
    (checkEntries check entries).Ensures
      (List.Forall₂ (fun entry result => entry.1 = .text result.1 ∧ related entry.2 result.2)
        entries) := by
  induction entries with
  | nil => exact .pure .nil
  | cons entry rest induction =>
      obtain ⟨key, value⟩ := entry
      obtain ⟨⟨name, rfl⟩, otherNames⟩ := List.forall_mem_cons.mp named
      obtain ⟨first, others⟩ := List.forall_mem_cons.mp ensures
      have ofName :=
        (ensures_checkText (.text name)).within "[key]" |>.within (locationOf (.text name))
      refine .seq (.seq (.map ofName ?_) (first.within _)) (induction otherNames others)
      exact fun name' same value holds results hold => .cons ⟨same, holds⟩ hold

theorem ensures_checkMapping (json : value.IsJson)
    (ensures : ∀ part, part.IsJson → (check part).Ensures property) :
    (checkMapping check value).Ensures fun entries =>
      (entries.map (·.1)).Nodup ∧ ∀ entry ∈ entries, property entry.2 := by
  rw [checkMapping, json.opened_eq]
  cases json with
  | map distinct named each =>
      refine (ensures_checkEntries (fun _ => property) named fun entry member =>
        ensures _ (each entry member)).imp ?_
      intro results alike
      rw [map_eq_of_forall₂ (fun _ _ same => same.1) alike] at distinct
      refine ⟨.of_map Value.text (by rwa [List.map_map]), ?_⟩
      exact forall_mem_right_of_forall₂ alike fun _ _ _ same => same.2
  | _ => exact .refuse _

/-! ## Models -/

theorem mem_of_lookup {key : Text} (found : Value.lookup key entries = some value) :
    (.text key, value) ∈ entries := by
  induction entries with
  | nil => cases found
  | cons entry rest induction =>
      obtain ⟨name, content⟩ := entry
      cases name with
      | text name =>
          rw [Value.lookup] at found
          split at found
          · rename_i same
            cases found
            rw [same]
            exact List.mem_cons_self
          · exact List.mem_cons_of_mem _ (induction found)
      | _ => exact List.mem_cons_of_mem _ (induction found)

private theorem isJson_of_lookupAmong (each : ∀ entry ∈ entries, entry.2.IsJson) {names : List Text}
    {name : Text} (found : lookupAmong entries names = some (name, value)) : value.IsJson := by
  induction names with
  | nil => cases found
  | cons other names induction =>
      rw [lookupAmong] at found
      split at found
      · rename_i there
        cases found
        exact each _ (mem_of_lookup there)
      · exact induction found

private theorem ensures_orNull (ensures : (check value).Ensures property) :
    (orNull check value).Ensures fun result => ∀ part ∈ result, property part := by
  rw [orNull.eq_def]
  split
  · exact .pure nofun
  · exact ensures.map fun part holds => by rintro _ ⟨⟩; exact holds

theorem ensures_optionalField (each : ∀ entry ∈ entries, entry.2.IsJson) (names : List Text)
    (ensures : ∀ part, part.IsJson → (check part).Ensures property) :
    (optionalField entries names check).Ensures fun result => ∀ part ∈ result, property part := by
  rw [optionalField]
  split
  · rename_i found
    exact (ensures_orNull (ensures _ (isJson_of_lookupAmong each found))).within _ |>.addField
  · exact .pure nofun

theorem ensures_checkModel {check : List (Value × Value) → Check α} (model : Text)
    (json : value.IsJson)
    (ensures : ∀ entries, Json.AreMembers entries → (check entries).Ensures property) :
    (checkModel model check value).Ensures property := by
  rw [checkModel, json.opened_eq]
  cases json with
  | map distinct named each => exact ensures _ ⟨distinct, named, each⟩
  | _ => exact .refuse _

theorem ensures_checkOrReference {check : List (Value × Value) → Check α} (model : Text)
    (json : value.IsJson)
    (ensures : ∀ entries, Json.AreMembers entries → (check entries).Ensures property) :
    (checkOrReference model check value).Ensures (·.Satisfies property) := by
  have ofModel := ensures_checkModel model json ensures
  rw [checkOrReference]
  cases checkReference value with
  | accepted pointer =>
      cases found : checkModel model check value with
      | accepted part =>
          dsimp only
          split
          · exact ofModel.of_accepted found
          · trivial
      | refused problems => trivial
  | refused problems =>
      cases found : checkModel model check value with
      | accepted part => exact ofModel.of_accepted found
      | refused more => trivial

end

end ApiClient
