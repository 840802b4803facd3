import ApiClient.Document.Check
import ApiClient.Settings.Search

/-! Settings from data. A setting that is not given has its default, and data for which there is no
setting is refused. -/

namespace ApiClient

namespace Settings

def checkSetting (entries : List (Value × Value)) (name : Text) (default : α)
    (check : Value → Check α) : Check α :=
  match Value.lookup name entries with
  | some value => (check value).within name
  | none => pure default

/-- The name of an entry that is no setting. -/
def otherName? : Value × Value → Option Text
  | (.text name, _) => if names.contains name then none else some name
  | _ => none

def checkOthers : List (Value × Value) → Check Unit
  | [] => pure ()
  | entry :: rest =>
    let other : Check Unit :=
      match otherName? entry with
      | none => pure ()
      | some name => (Check.refuse .extra).within name
    (fun _ _ => ()) <$> other <*> checkOthers rest

/-- The first entry whose name is not made of characters. -/
def unreadableName? (entries : List (Value × Value)) : Option Text :=
  (entries.filterMap otherName?).find? (·.any (·.isSurrogate))

/-- Settings from entries. A name that is not made of characters is all that is complained about. -/
def check (entries : List (Value × Value)) : Check Settings :=
  if (unreadableName? entries).isSome then .refuse .notUtf8
  else
    let setting {α : Type} (name : Text) (default : α) (check : Value → Check α) :=
      checkSetting entries name default check
    let defaults : Settings := {}
    (fun source output modelsFile apiFile requestFile httpConfigFile modelsNamespace _ =>
      { source, output, modelsFile, apiFile, requestFile, httpConfigFile, modelsNamespace })
      <$> setting "source" defaults.source (orNull checkText)
      <*> setting "output" defaults.output checkText
      <*> setting "models_file" defaults.modelsFile checkText
      <*> setting "api_file" defaults.apiFile checkText
      <*> setting "request_file" defaults.requestFile checkText
      <*> setting "http_config_file" defaults.httpConfigFile checkText
      <*> setting "models_namespace" defaults.modelsNamespace checkText
      <*> checkOthers entries

/-! ## Wording -/

/-- The words under which a complaint is explained. -/
def complaintCode : Complaint → Text
  | .notText => "string_type"
  | .notUtf8 => "string_unicode"
  | .notList => "list_type"
  | .notMapping => "dict_type"
  | .notModel _ => "model_type"
  | .notTruth => "bool_type"
  | .unclearTruth => "bool_parsing"
  | .notKind => "literal_error"
  | .recursion => "recursion_loop"
  | .missing => "missing"
  | .extra => "extra_forbidden"

/-- The leading part of a text that fits in a number of octets. -/
def leadingPart (size : Nat) : Text → Text
  | [] => []
  | c :: rest =>
    if Text.Utf8.size [c] ≤ size then c :: leadingPart (size - Text.Utf8.size [c]) rest else []

/-- A text too long to be shown whole is cut in the middle. The sizes are in octets, and no
character is cut. -/
def abbreviated (text : Text) : Text :=
  if Text.Utf8.size text ≤ 50 then text
  else leadingPart 25 text ++ "..." ++ (leadingPart 24 text.reverse).reverse

/-- What is complained about: the value of an entry, or else a name. -/
def complainedAbout (entries : List (Value × Value)) : List Text → Value
  | [name] => (Value.lookup name entries).getD .null
  | _ => (unreadableName? entries).elim .null .text

def problemLines (entries : List (Value × Value)) (problem : Problem) : List Text :=
  let value := complainedAbout entries problem.location
  let code := complaintCode problem.complaint
  let place := if problem.location.isEmpty then [] else [joined "." problem.location]
  place ++
    ["  " ++ problem.complaint.message ++ " [type=" ++ code ++ ", input_value=" ++
        abbreviated value.shown ++ ", input_type=" ++ value.kindName ++ "]",
      "    For further information visit https://errors.pydantic.dev/2.14/v/" ++ code]

/-- All problems of given settings, in one text. -/
def problemsText (entries : List (Value × Value)) (problems : List Problem) : Text :=
  let count := problems.length
  let plural : Text := if count = 1 then "" else "s"
  let heading := Text.ofNat count ++ " validation error" ++ plural ++
    " for DocumentConfig"
  joined "\n" (heading :: problems.flatMap (problemLines entries))

end Settings

end ApiClient
