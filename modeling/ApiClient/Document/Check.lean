import ApiClient.Data.Display
import ApiClient.Document.Schema

/-! Checking data against a model. A check that fails reports every problem it finds, each with the
place where it stands, in the order in which the model declares its fields. A check that succeeds
counts the fields that were given, those of nested models included, and tells whether every part of
the data had the form asked for or some was only taken for it: where data fits two models, this
decides between them. -/

namespace ApiClient

/-- What is wrong with a piece of data. -/
inductive Complaint where
  | notText
  | notUtf8
  | notList
  | notMapping
  | notModel (model : Text)
  | notTruth
  | unclearTruth
  | notKind
  | recursion
  | missing
  | extra
  deriving DecidableEq, Repr

structure Problem where
  location : List Text
  complaint : Complaint
  deriving DecidableEq, Repr

/-- Words as alternatives, each in single quotes. -/
def alternatives : List Text → Text
  | [] => ""
  | [word] => "'" ++ word ++ "'"
  | [word, last] => "'" ++ word ++ "' or '" ++ last ++ "'"
  | word :: rest => "'" ++ word ++ "', " ++ alternatives rest

def Complaint.message : Complaint → Text
  | .notText => "Input should be a valid string"
  | .notUtf8 => "Input should be a valid string, unable to parse raw data as a unicode string"
  | .notList => "Input should be a valid list"
  | .notMapping => "Input should be a valid dictionary"
  | .notModel model => "Input should be a valid dictionary or instance of " ++ model
  | .notTruth => "Input should be a valid boolean"
  | .unclearTruth => "Input should be a valid boolean, unable to interpret input"
  | .notKind => "Input should be " ++ alternatives (Kind.all.map Kind.name)
  | .recursion => "Recursion error - cyclic reference detected"
  | .missing => "Field required"
  | .extra => "Extra inputs are not permitted"

def Problem.message (problem : Problem) : Text :=
  joined "." problem.location ++ ": " ++ problem.complaint.message

def Problem.within (part : Text) (problem : Problem) : Problem :=
  { problem with location := part :: problem.location }

inductive Check (α : Type) where
  | accepted (value : α) (fields : Nat) (isExact : Bool)
  | refused (problems : List Problem)
  deriving Repr

namespace Check

def refuse (complaint : Complaint) : Check α :=
  .refused [⟨[], complaint⟩]

/-- Two checks together find the problems of both. -/
def both : Check (α → β) → Check α → Check β
  | .accepted build m exact, .accepted value n exact' =>
    .accepted (build value) (m + n) (exact && exact')
  | .accepted _ _ _, .refused problems => .refused problems
  | .refused problems, .accepted _ _ _ => .refused problems
  | .refused problems, .refused more => .refused (problems ++ more)

instance : Applicative Check where
  pure value := .accepted value 0 true
  seq checks rest := both checks (rest ())

/-- Problems found inside a part of the data are located there. -/
def within (part : Text) : Check α → Check α
  | .accepted value fields isExact => .accepted value fields isExact
  | .refused problems => .refused (problems.map (Problem.within part))

def addField : Check α → Check α
  | .accepted value fields isExact => .accepted value (fields + 1) isExact
  | .refused problems => .refused problems

/-- What was checked is only taken for what was asked for. -/
def coerced : Check α → Check α
  | .accepted value fields _ => .accepted value fields false
  | .refused problems => .refused problems

/-- Check the members of a list, each at its position. -/
def each (check : α → Check β) : Nat → List α → Check (List β)
  | _, [] => pure []
  | position, item :: rest =>
    List.cons <$> (check item).within (Text.ofNat position) <*> each check (position + 1) rest

end Check

/-! ## Scalars -/

def checkText : Value → Check Text
  | .text value => pure value
  | .octets value =>
    match Text.Utf8.decode value with
    | .ok text => (pure (Text.ofCharacters text) : Check Text).coerced
    | .error _ => .refuse .notUtf8
  | _ => .refuse .notText

/-- Words that stand for a truth value, in any letter case. -/
def truthWord? (word : List Char) : Option Bool :=
  let word := String.ofList (word.map Char.toLower)
  if ["0", "off", "f", "false", "n", "no"].contains word then some false
  else if ["1", "on", "t", "true", "y", "yes"].contains word then some true
  else none

def checkTruthWord (word : List Char) : Check Bool :=
  match truthWord? word with
  | some value => pure value
  | none => .refuse .unclearTruth

/-- The least and the greatest whole number of 64 bits. -/
def leastWord : Int := -0x8000000000000000

def greatestWord : Int := 0x7fffffffffffffff

/-- The numbers zero and one are truth values. Whole numbers of 64 bits are said to be unclear, all
others to be no truth value. -/
def checkTruthNumber (number : Int) : Check Bool :=
  if number = 0 then pure false
  else if number = 1 then pure true
  else if leastWord ≤ number ∧ number ≤ greatestWord then .refuse .unclearTruth
  else .refuse .notTruth

def checkTruth : Value → Check Bool
  | .bool value => pure value
  | .text word =>
    match word.characters? with
    | some word => (checkTruthWord word).coerced
    | none => .refuse .notUtf8
  | .octets word =>
    match Text.Utf8.decode word with
    | .ok word => (checkTruthWord word).coerced
    | .error _ => .refuse .unclearTruth
  | .int number => (checkTruthNumber number).coerced
  | .real number =>
    match number.integer? with
    | some number =>
      if number = leastWord then .refuse .notTruth else (checkTruthNumber number).coerced
    | none => .refuse .notTruth
  | _ => .refuse .notTruth

/-- A kind is taken for its name. -/
def checkKind : Value → Check Kind
  | .text name =>
    match Kind.named? name with
    | some kind => (pure kind : Check Kind).coerced
    | none => .refuse (if name.any (·.isSurrogate) then .notUtf8 else .notKind)
  | _ => .refuse .notKind

def checkAny (value : Value) : Check Value :=
  pure value

/-! ## Collections -/

def checkList (check : Value → Check α) (value : Value) : Check (List α) :=
  match value.opened with
  | .list items => .each check 0 items
  | .tuple items | .set items => (Check.each check 0 items).coerced
  | _ => .refuse .notList

/-- Half of a surrogate pair takes three octets, none of which is a character of its own. -/
def withoutHalves (text : Text) : Text :=
  text.flatMap fun c => if c.isSurrogate then "\ufffd\ufffd\ufffd" else [c]

/-- A key as a part of a location. -/
def locationOf : Value → Text
  | .text name => withoutHalves name
  | .bool value => if value then "1" else "0"
  | key => key.shown

/-- Check the entries of a mapping: the keys for being texts, the values as asked. -/
def checkEntries (check : α → Check β) : List (Value × α) → Check (List (Text × β))
  | [] => pure []
  | (key, value) :: rest =>
    let name := (checkText key).within "[key]" |>.within (locationOf key)
    let value := (check value).within (locationOf key)
    (fun name value rest => (name, value) :: rest) <$> name <*> value <*> checkEntries check rest

def checkMapping (check : Value → Check α) (value : Value) : Check (List (Text × α)) :=
  match value.opened with
  | .map entries => checkEntries check entries
  | _ => .refuse .notMapping

/-! ## Fields

A field is looked up under its name and then under its other names. A field left out, or null where
that is allowed, has no value; only a field that is there counts. -/

/-- The first of several names that is a key, with what it is mapped to. -/
def lookupAmong (entries : List (Value × Value)) : List Text → Option (Text × Value)
  | [] => none
  | name :: others =>
    match Value.lookup name entries with
    | some value => some (name, value)
    | none => lookupAmong entries others

def orNull (check : Value → Check α) : Value → Check (Option α)
  | .null => pure none
  | value => some <$> check value

def optionalField (entries : List (Value × Value)) (names : List Text)
    (check : Value → Check α) : Check (Option α) :=
  match lookupAmong entries names with
  | some (name, value) => (orNull check value |>.within name).addField
  | none => pure none

def requiredField (entries : List (Value × Value)) (names : List Text)
    (check : Value → Check α) : Check α :=
  match lookupAmong entries names with
  | some (name, value) => (check value |>.within name).addField
  | none => (Check.refuse .missing).within (names.headD "")

end ApiClient
