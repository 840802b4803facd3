import ApiClient.Proofs.Document.Check
import ApiClient.Settings.Reading

/-! What settings are read as. Entries are accepted just if all of them are settings whose
values are texts, or null in place of the source, and then each setting has the value that is
given for it, or else its default. -/

namespace ApiClient

/-! ## Accepted data -/

def Check.isAccepted {α : Type} : Check α → Bool
  | .accepted _ _ _ => true
  | .refused _ => false

namespace Check

variable {α β : Type}

@[simp] theorem isAccepted_pure (value : α) : (pure value : Check α).isAccepted = true :=
  rfl

@[simp] theorem isAccepted_refuse (complaint : Complaint) :
    (refuse complaint : Check α).isAccepted = false :=
  rfl

@[simp] theorem isAccepted_seq (checks : Check (α → β)) (check : Check α) :
    (checks <*> check).isAccepted = (checks.isAccepted && check.isAccepted) := by
  cases checks <;> cases check <;> rfl

@[simp] theorem isAccepted_map (image : α → β) (check : Check α) :
    (image <$> check).isAccepted = check.isAccepted := by
  cases check <;> rfl

@[simp] theorem isAccepted_within (part : Text) (check : Check α) :
    (check.within part).isAccepted = check.isAccepted := by
  cases check <;> rfl

end Check

namespace Settings

/-! ## Single settings -/

/-- A setting by its name. Only the source can be without a value. -/
def valueOf (settings : Settings) (name : Text) : Option Text :=
  if name = "source" then settings.source
  else if name = "output" then some settings.output
  else if name = "models_file" then some settings.modelsFile
  else if name = "api_file" then some settings.apiFile
  else if name = "request_file" then some settings.requestFile
  else if name = "http_config_file" then some settings.httpConfigFile
  else if name = "models_namespace" then some settings.modelsNamespace
  else none

/-- What a value is as a setting of a name, if it can be one. -/
def settingOf? (name : Text) : Value → Option (Option Text)
  | .text text => some (some text)
  | .octets octets =>
    match Text.Utf8.decode octets with
    | .ok characters => some (some (Text.ofCharacters characters))
    | .error _ => none
  | .null => if name = "source" then some none else none
  | _ => none

/-- What a setting is by entries. -/
def IsRead (entries : List (Value × Value)) (name : Text) (result : Option Text) : Prop :=
  match Value.lookup name entries with
  | some value => settingOf? name value = some result
  | none => result = ({} : Settings).valueOf name

section

variable {name : Text} {value : Value} {entries : List (Value × Value)}

private theorem isAccepted_checkText (other : name ≠ "source") :
    (checkText value).isAccepted = (settingOf? name value).isSome := by
  cases value with
  | null => rw [settingOf?, if_neg other]; rfl
  | octets octets =>
      rw [checkText, settingOf?]
      cases Text.Utf8.decode octets <;> rfl
  | _ => rfl

private theorem isAccepted_orNull :
    (orNull checkText value).isAccepted = (settingOf? "source" value).isSome := by
  cases value with
  | octets octets =>
      rw [orNull, checkText, settingOf?]
      · cases Text.Utf8.decode octets <;> rfl
      · nofun
  | _ => rfl

private theorem ensures_checkText_setting :
    (checkText value).Ensures fun text => settingOf? name value = some (some text) := by
  cases value with
  | octets octets =>
      rw [checkText, settingOf?]
      cases Text.Utf8.decode octets with
      | ok characters => rfl
      | error fault => trivial
  | text text => rfl
  | _ => trivial

private theorem ensures_orNull_source :
    (orNull checkText value).Ensures fun text => settingOf? "source" value = some text := by
  cases value with
  | null => rfl
  | _ => exact .map ensures_checkText_setting fun _ same => same

private theorem isAccepted_checkSetting {α : Type} {default : α} {check : Value → Check α} :
    (checkSetting entries name default check).isAccepted ↔
      ∀ value, Value.lookup name entries = some value → (check value).isAccepted := by
  rw [checkSetting]
  cases Value.lookup name entries <;> simp

private theorem ensures_checkSetting {α : Type} {default : α} {check : Value → Check α}
    (image : α → Option Text) (sameDefault : image default = ({} : Settings).valueOf name)
    (ensures : ∀ value,
      (check value).Ensures fun result => settingOf? name value = some (image result)) :
    (checkSetting entries name default check).Ensures fun result =>
      IsRead entries name (image result) := by
  rw [checkSetting]
  unfold IsRead
  cases Value.lookup name entries with
  | none => exact sameDefault
  | some value => exact (ensures value).within name

/-! ## All settings -/

private theorem isAccepted_checkOthers :
    (checkOthers entries).isAccepted ↔ ∀ entry ∈ entries, otherName? entry = none := by
  induction entries with
  | nil => simp [checkOthers]
  | cons entry rest induction =>
      rw [checkOthers, List.forall_mem_cons, ← induction]
      cases otherName? entry <;> simp

/-- Entries are accepted if each is a setting and has a value that it can have. -/
theorem isAccepted_check :
    (check entries).isAccepted ↔ (∀ entry ∈ entries, otherName? entry = none) ∧
      ∀ name ∈ names, ∀ value, Value.lookup name entries = some value →
        (settingOf? name value).isSome := by
  have ofTexts {name : Text} (other : name ≠ "source") {default : Text} :
      (checkSetting entries name default checkText).isAccepted ↔
        ∀ value, Value.lookup name entries = some value → (settingOf? name value).isSome := by
    simp only [isAccepted_checkSetting, isAccepted_checkText other]
  have ofSource {default : Option Text} :
      (checkSetting entries "source" default (orNull checkText)).isAccepted ↔
        ∀ value, Value.lookup "source" entries = some value →
        (settingOf? "source" value).isSome := by
    simp only [isAccepted_checkSetting, isAccepted_orNull]
  rw [check]
  split
  · rename_i unreadable
    refine iff_of_false Bool.false_ne_true ?_
    rintro ⟨known, -⟩
    rw [unreadableName?, List.filterMap_eq_nil_iff.mpr known] at unreadable
    cases unreadable
  · simp only [Check.isAccepted_seq, Check.isAccepted_map, Bool.and_eq_true, isAccepted_checkOthers,
      names, List.forall_mem_cons]
    rw [ofSource, ofTexts (by decide), ofTexts (by decide), ofTexts (by decide),
      ofTexts (by decide), ofTexts (by decide), ofTexts (by decide)]
    constructor
    · rintro ⟨⟨⟨⟨⟨⟨⟨source, output⟩, models⟩, api⟩, request⟩, http⟩, space⟩, known⟩
      exact ⟨known, source, output, models, api, request, http, space, nofun⟩
    · rintro ⟨known, source, output, models, api, request, http, space, -⟩
      exact ⟨⟨⟨⟨⟨⟨⟨source, output⟩, models⟩, api⟩, request⟩, http⟩, space⟩, known⟩

theorem ensures_check :
    (check entries).Ensures fun settings =>
      ∀ name ∈ names, IsRead entries name (settings.valueOf name) := by
  have ofTexts {name default : Text} (same : some default = ({} : Settings).valueOf name) :
      (checkSetting entries name default checkText).Ensures fun text =>
        IsRead entries name (some text) :=
    ensures_checkSetting some same fun _ => ensures_checkText_setting
  have ofSource : (checkSetting entries "source" none (orNull checkText)).Ensures
      (IsRead entries "source") :=
    ensures_checkSetting id rfl fun _ => ensures_orNull_source
  rw [check]
  split
  · trivial
  · refine .seq (.seq (.seq (.seq (.seq (.seq (.seq (.map ofSource ?_) (ofTexts rfl)) (ofTexts rfl))
      (ofTexts rfl)) (ofTexts rfl)) (ofTexts rfl)) (ofTexts rfl)) (.any _)
    intro source ofSource output ofOutput models ofModels api ofApi request ofRequest http ofHttp
      space ofSpace _ _
    simp only [names, List.forall_mem_cons]
    exact ⟨ofSource, ofOutput, ofModels, ofApi, ofRequest, ofHttp, ofSpace, nofun⟩

end

end Settings

end ApiClient
