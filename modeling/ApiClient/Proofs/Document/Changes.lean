import ApiClient.Document.Validation
import Mathlib.Data.Option.Basic

/-! Changes of a part of data, and checks that make the same of the data before and after. The check
of a list, of a mapping or of a model ignores a change of a part if the check of this part does. -/

namespace ApiClient

/-- One member of an object, with an allowed name, is changed. -/
inductive InMember (allowed : Text → Prop) (change : Value → Value → Prop) : Value → Value → Prop
  | intro (before after : List (Value × Value)) {name : Text} {old new : Value}
      (named : allowed name) (changed : change old new) :
      InMember allowed change (.map (before ++ (.text name, old) :: after))
        (.map (before ++ (.text name, new) :: after))

/-- One item of a list is changed. -/
inductive InElement (change : Value → Value → Prop) : Value → Value → Prop
  | intro (before after : List Value) {old new : Value} (changed : change old new) :
      InElement change (.list (before ++ old :: after)) (.list (before ++ new :: after))

/-- A check makes the same of data before and after a change. Null is not changed, nor is there a
change to it. -/
structure Ignores {α : Type} (check : Value → Check α) (change : Value → Value → Prop) : Prop where
  same : ∀ {old new}, change old new → check old = check new
  present : ∀ {old new}, change old new → old ≠ .null ∧ new ≠ .null

section

variable {α : Type} {check : Value → Check α} {change other : Value → Value → Prop}
  {allowed : Text → Prop} {names : List Text} {name key : Text} {old new : Value}
  {entries others before after : List (Value × Value)}

theorem Ignores.or (ofFirst : Ignores check change) (ofSecond : Ignores check other) :
    Ignores check fun old new => change old new ∨ other old new where
  same := by
    rintro old new (changed | changed)
    · exact ofFirst.same changed
    · exact ofSecond.same changed
  present := by
    rintro old new (changed | changed)
    · exact ofFirst.present changed
    · exact ofSecond.present changed

/-! ## Collections -/

private theorem each_replaced {before after : List Value} (same : check old = check new)
    (position : Nat) :
    Check.each check position (before ++ old :: after) =
      Check.each check position (before ++ new :: after) := by
  induction before generalizing position with
  | nil => rw [List.nil_append, List.nil_append, Check.each, Check.each, same]
  | cons item before induction =>
      rw [List.cons_append, List.cons_append, Check.each, Check.each, induction]

theorem ignores_checkList (ignores : Ignores check change) :
    Ignores (checkList check) (InElement change) where
  same := by
    rintro _ _ ⟨before, after, changed⟩
    exact each_replaced (ignores.same changed) 0
  present := by
    rintro _ _ ⟨before, after, changed⟩
    exact ⟨nofun, nofun⟩

private theorem checkEntries_replaced (same : check old = check new) :
    checkEntries check (before ++ (.text name, old) :: after) =
      checkEntries check (before ++ (.text name, new) :: after) := by
  induction before with
  | nil => rw [List.nil_append, List.nil_append, checkEntries, checkEntries, same]
  | cons entry before induction =>
      rw [List.cons_append, List.cons_append, checkEntries, checkEntries, induction]

theorem checkMapping_replaced (same : check old = check new) :
    checkMapping check (.map (before ++ (.text name, old) :: after)) =
      checkMapping check (.map (before ++ (.text name, new) :: after)) :=
  checkEntries_replaced same

theorem ignores_checkMapping (ignores : Ignores check change) :
    Ignores (checkMapping check) (InMember (fun _ => True) change) where
  same := by
    rintro _ _ ⟨before, after, -, changed⟩
    exact checkMapping_replaced (ignores.same changed)
  present := by
    rintro _ _ ⟨before, after, -, changed⟩
    exact ⟨nofun, nofun⟩

/-! ## Fields -/

theorem Value.sameKey_text_iff {value : Value} {name : Text} :
    value.sameKey (.text name) = true ↔ value = .text name := by
  cases value <;> simp [sameKey, integer?]

theorem lookup_append (key : Text) (before after : List (Value × Value)) :
    Value.lookup key (before ++ after) =
      (Value.lookup key before).or (Value.lookup key after) := by
  induction before with
  | nil => rfl
  | cons entry before induction =>
      obtain ⟨name, content⟩ := entry
      cases name with
      | text name =>
          rw [List.cons_append, Value.lookup, Value.lookup, induction]
          split <;> rfl
      | _ => exact induction

theorem lookup_put (key name : Text) (value : Value) (entries : List (Value × Value)) :
    Value.lookup key (Value.put (.text name) value entries) =
      if name = key then some value else Value.lookup key entries := by
  induction entries with
  | nil => rfl
  | cons entry rest induction =>
      obtain ⟨entryKey, content⟩ := entry
      rw [Value.put]
      split
      · rename_i same
        obtain rfl := Value.sameKey_text_iff.mp same
        rw [Value.lookup, Value.lookup]
        split <;> rfl
      · rename_i different
        cases entryKey with
        | text other =>
            have apart : other ≠ name := by
              rintro rfl
              exact different (Value.sameKey_text_iff.mpr rfl)
            rw [Value.lookup, Value.lookup, induction]
            split
            · rename_i here
              rw [if_neg fun same => apart (here.trans same.symm)]
            · rfl
        | _ => exact induction

theorem lookup_replaced (old new : Value) (different : key ≠ name) :
    Value.lookup key (before ++ (.text name, old) :: after) =
      Value.lookup key (before ++ (.text name, new) :: after) := by
  rw [lookup_append, lookup_append, Value.lookup, Value.lookup, if_neg different.symm,
    if_neg different.symm]

theorem lookups_replaced (other : name ∉ names) : ∀ key ∈ names,
    Value.lookup key (before ++ (.text name, old) :: after) =
      Value.lookup key (before ++ (.text name, new) :: after) :=
  fun _ member => lookup_replaced old new fun same => other (same ▸ member)

private theorem lookupAmong_congr
    (same : ∀ name ∈ names, Value.lookup name entries = Value.lookup name others) :
    lookupAmong entries names = lookupAmong others names := by
  induction names with
  | nil => rfl
  | cons name names induction =>
      obtain ⟨first, rest⟩ := List.forall_mem_cons.mp same
      rw [lookupAmong, lookupAmong, first, induction rest]

theorem requiredField_congr
    (same : ∀ name ∈ names, Value.lookup name entries = Value.lookup name others) :
    requiredField entries names check = requiredField others names check := by
  rw [requiredField, requiredField, lookupAmong_congr same]

theorem optionalField_congr
    (same : ∀ name ∈ names, Value.lookup name entries = Value.lookup name others) :
    optionalField entries names check = optionalField others names check := by
  rw [optionalField, optionalField, lookupAmong_congr same]

theorem requiredField_other (old new : Value) (other : name ∉ names) :
    requiredField (before ++ (.text name, old) :: after) names check =
      requiredField (before ++ (.text name, new) :: after) names check :=
  requiredField_congr (lookups_replaced other)

theorem optionalField_other (old new : Value) (other : name ∉ names) :
    optionalField (before ++ (.text name, old) :: after) names check =
      optionalField (before ++ (.text name, new) :: after) names check :=
  optionalField_congr (lookups_replaced other)

/-- What is found under a name is checked to the same as what is found elsewhere. -/
def FoundAlike (check : Value → Check α) : Option Value → Option Value → Prop :=
  Option.Rel fun old new => orNull check old = orNull check new

theorem FoundAlike.of_eq {found another : Option Value} (same : found = another) :
    FoundAlike check found another := by
  subst same
  cases found with
  | none => exact .none
  | some content => exact .some rfl

theorem foundAlike_replaced (same : orNull check old = orNull check new) (key : Text) :
    FoundAlike check (Value.lookup key (before ++ (.text name, old) :: after))
      (Value.lookup key (before ++ (.text name, new) :: after)) := by
  rw [lookup_append, lookup_append, Value.lookup, Value.lookup]
  split
  · cases Value.lookup key before with
    | none => exact .some same
    | some content => exact .of_eq rfl
  · exact .of_eq rfl

theorem optionalField_alike
    (alike : ∀ name ∈ names,
      FoundAlike check (Value.lookup name entries) (Value.lookup name others)) :
    optionalField entries names check = optionalField others names check := by
  induction names with
  | nil => rfl
  | cons name names induction =>
      obtain ⟨first, rest⟩ := List.forall_mem_cons.mp alike
      have ofRest := induction rest
      rw [optionalField, optionalField] at ofRest ⊢
      rw [lookupAmong, lookupAmong]
      generalize Value.lookup name entries = old, Value.lookup name others = new at first
      cases first with
      | none => exact ofRest
      | some same => exact congrArg (fun result => (result.within name).addField) same

theorem optionalField_member (same : orNull check old = orNull check new) :
    optionalField (before ++ (.text name, old) :: after) names check =
      optionalField (before ++ (.text name, new) :: after) names check :=
  optionalField_alike fun key _ => foundAlike_replaced same key

theorem orNull_congr (same : check old = check new) (present : old ≠ .null ∧ new ≠ .null) :
    orNull check old = orNull check new := by
  rw [orNull, orNull, same]
  · exact present.2
  · exact present.1

theorem Ignores.orNull_eq (ignores : Ignores check change) (changed : change old new) :
    orNull check old = orNull check new :=
  orNull_congr (ignores.same changed) (ignores.present changed)

/-! ## Models -/

variable {checkFields : List (Value × Value) → Check α}

theorem ignores_checkModel (model : Text)
    (same : ∀ {before after name old new}, allowed name → change old new →
      checkFields (before ++ (.text name, old) :: after) =
        checkFields (before ++ (.text name, new) :: after)) :
    Ignores (checkModel model checkFields) (InMember allowed change) where
  same := by
    rintro _ _ ⟨before, after, named, changed⟩
    exact same named changed
  present := by
    rintro _ _ ⟨before, after, -, changed⟩
    exact ⟨nofun, nofun⟩

/-- A node that may be a reference is one all the same if its pointer does not change. -/
theorem ignores_checkOrReference {model : Text}
    (noPointer : ∀ name, allowed name → name ∉ (["$ref", "ref"] : List Text))
    (ignores : Ignores (checkModel model checkFields) (InMember allowed change)) :
    Ignores (checkOrReference model checkFields) (InMember allowed change) where
  same := by
    intro old new changed
    have ofReference : checkReference old = checkReference new := by
      obtain ⟨before, after, named, _⟩ := changed
      exact requiredField_congr (lookups_replaced (noPointer _ named))
    rw [checkOrReference, checkOrReference, ofReference, ignores.same changed]
  present := ignores.present

end

end ApiClient
