import ApiClient.Proofs.Code.Items
import Mathlib.Data.List.Nodup

/-! Names of members as code reads them back. Every member has a name of its own
unless the underscore before a number, or the line feed after an identifier, makes
it the name of another one. -/

namespace ApiClient

/-! ## Spellings -/

def readsAsNumber (value : Text) : Bool :=
  (value.characters?.bind Text.Numeral.real?).isSome

/-- The text of which the name of a member is the key. -/
def memberSpelling (value : Text) : Text :=
  if readsAsNumber value then "_" ++ value else value

private theorem memberName_eq (value : Text) :
    memberName value = propertyKey (memberSpelling value) := by
  rw [memberName, memberSpelling, apply_ite propertyKey]
  rfl

private theorem head?_trimEnd {α : Type} {drops : α → Bool} {c : α} (kept : drops c = false)
    (rest : List α) : (Text.trimEnd drops (c :: rest)).head? = some c := by
  rw [Text.trimEnd]
  split
  · simp [kept]
  · rfl

/-- No numeral begins with an underscore. -/
theorem readsAsNumber_underscore (value : Text) : readsAsNumber ("_" ++ value) = false := by
  have refused (text : List Char) (begins : text.head? = some '_') :
      Text.Numeral.withoutUnderscores Text.Numeral.isDigit none text = none := by
    obtain ⟨rest, rfl⟩ := List.head?_eq_some_iff.mp begins
    rfl
  have core (characters : List Char) : (Text.Numeral.core ('_' :: characters)).head? = some '_' :=
    head?_trimEnd rfl _
  change ((Text.characters? (.char '_' :: value)).bind Text.Numeral.real?).isSome = false
  rw [Text.characters?]
  cases value.characters? with
  | none => rfl
  | some characters =>
      change (Text.Numeral.real? ('_' :: characters)).isSome = false
      rw [Text.Numeral.real?, refused _ (core characters)]
      rfl

/-- Members that have one name: one reads as a number and the other is it with the underscore, or
one name is the other with a line feed, which no identifier keeps. -/
def SharesMemberName (value other : Text) : Prop :=
  readsAsNumber value ∧ other = "_" ++ value ∨
  isWholeIdentifier (memberSpelling value) ∧
    memberSpelling other = memberSpelling value ++ ("\n" : Text)

instance (value other : Text) : Decidable (SharesMemberName value other) :=
  inferInstanceAs (Decidable (_ ∨ _))

private theorem SharesMemberName.irrefl (value : Text) : ¬ SharesMemberName value value := by
  rintro (⟨_, same⟩ | ⟨_, same⟩)
  · exact absurd (congrArg List.length same) (by simp [Text.ofString, Text.ofCharacters])
  · exact absurd (congrArg List.length same) (by simp [Text.ofString, Text.ofCharacters])

private theorem memberSpelling_eq_iff {value other : Text} :
    memberSpelling value = memberSpelling other ↔ value = other ∨
      readsAsNumber value ∧ other = "_" ++ value ∨ readsAsNumber other ∧ value = "_" ++ other := by
  have apart {first second : Text} (number : readsAsNumber second) : second ≠ "_" ++ first := by
    rintro rfl
    rw [readsAsNumber_underscore] at number
    exact Bool.noConfusion number
  rw [memberSpelling, memberSpelling]
  by_cases number : readsAsNumber value <;> by_cases alsoNumber : readsAsNumber other
  · simp [number, alsoNumber, apart]
  · have ne : value ≠ other := fun same => alsoNumber (same ▸ number)
    simp [number, alsoNumber, ne, eq_comm]
  · have ne : value ≠ other := fun same => number (same ▸ alsoNumber)
    simp [number, alsoNumber, ne]
  · simp [number, alsoNumber]

namespace Code

private theorem keyName_cases (name : Text) :
    keyName name = name ∨
      isWholeIdentifier (keyName name) ∧ name = keyName name ++ ("\n" : Text) := by
  by_cases identifier : isIdentifier name
  · obtain ⟨whole, isWhole, rfl | rfl⟩ := isIdentifier_cases identifier
    · exact .inl (keyName_whole isWhole)
    · rw [keyName_lineFeed isWhole]
      exact .inr ⟨isWhole, rfl⟩
  · exact .inl (if_neg identifier)

private theorem keyName_eq_iff {name other : Text} :
    keyName name = keyName other ↔ name = other ∨
      isWholeIdentifier name ∧ other = name ++ ("\n" : Text) ∨
      isWholeIdentifier other ∧ name = other ++ ("\n" : Text) := by
  constructor
  · intro same
    rcases keyName_cases name with plain | ⟨whole, ends⟩ <;>
      rcases keyName_cases other with alsoPlain | ⟨alsoWhole, alsoEnds⟩
    · exact .inl (plain ▸ alsoPlain ▸ same)
    · rw [← same, plain] at alsoWhole alsoEnds
      exact .inr (.inl ⟨alsoWhole, alsoEnds⟩)
    · rw [same, alsoPlain] at whole ends
      exact .inr (.inr ⟨whole, ends⟩)
    · exact .inl (ends.trans (same ▸ alsoEnds.symm))
  · rintro (rfl | ⟨whole, rfl⟩ | ⟨whole, rfl⟩)
    · rfl
    · rw [keyName_whole whole, keyName_lineFeed whole]
    · rw [keyName_whole whole, keyName_lineFeed whole]

namespace Enumeration

/-- The name of a member in the indented declaration. -/
def nameOf (value : Text) : Text :=
  Text.Literal.indented 1 (keyName (memberSpelling value))

private theorem nodup_nameOf_iff {values : List Text} (distinct : values.Nodup) :
    (values.map nameOf).Nodup ↔
      ∀ value ∈ values, ∀ other ∈ values, ¬ SharesMemberName value other := by
  have nameOf_eq_iff (value other : Text) : nameOf value = nameOf other ↔
      keyName (memberSpelling value) = keyName (memberSpelling other) :=
    (Text.Literal.indented_injective 1).eq_iff
  rw [List.nodup_map_iff_inj_on distinct]
  simp only [nameOf_eq_iff, keyName_eq_iff, memberSpelling_eq_iff]
  constructor
  · intro apart value among other alsoAmong shares
    obtain rfl : value = other := by
      apply apart value among other alsoAmong
      rcases shares with numbered | ended
      · exact .inl (.inr (.inl numbered))
      · exact .inr (.inl ended)
    exact SharesMemberName.irrefl value shares
  · intro apart value among other alsoAmong same
    rcases same with (same | numbered | numbered) | ended | ended
    · exact same
    · exact absurd (.inl numbered) (apart value among other alsoAmong)
    · exact absurd (.inl numbered) (apart other alsoAmong value among)
    · exact absurd (.inr ended) (apart value among other alsoAmong)
    · exact absurd (.inr ended) (apart other alsoAmong value among)

/-! ## Reading -/

/-- The text that initialises a member, after its name, and what follows it and the space after
it. -/
def readValue? (text : Text) : Option (Text × Text) := do
  let rest ← Text.remainder? "= '" text
  let (value, rest) ← Quotation.finish? (.inside []) rest
  let rest ← Text.remainder? "," rest
  return (value, skipSpace rest)

/-- The name and the value of the member with which a text begins, and what follows it and the space
after it. -/
def readMember? (text : Text) : Option ((Text × Text) × Text) := do
  let (name, rest) ← readKey? text
  let (value, rest) ← readValue? rest
  return ((name, value), rest)

private theorem readValue?_length {text value rest : Text}
    (found : readValue? text = some (value, rest)) : rest.length < text.length := by
  simp only [readValue?, Option.bind_eq_bind, Option.bind_eq_some_iff] at found
  obtain ⟨literal, ofOpening, ⟨value, after⟩, ofValue, closed, ofComma, ⟨⟩⟩ := found
  have openingLength := Text.remainder?_length ofOpening
  have valueLength := Quotation.finish?_length ofValue
  have commaLength := Text.remainder?_length ofComma
  have spaceLength := skipSpace_length closed
  have comma : 0 < ("," : Text).length := by decide
  dsimp only at commaLength
  omega

private theorem readMember?_length {text rest : Text} {member : Text × Text}
    (found : readMember? text = some (member, rest)) : rest.length < text.length := by
  simp only [readMember?, Option.bind_eq_bind, Option.bind_eq_some_iff] at found
  obtain ⟨⟨name, after⟩, ofName, ⟨value, last⟩, ofValue, ⟨⟩⟩ := found
  exact (readValue?_length ofValue).trans_le (readKey?_length ofName)

def memberReader : ItemReader (Text × Text) := ⟨readMember?, readMember?_length⟩

/-- The members of the enumeration with which a text begins. -/
def members? (name text : Text) : Option (List (Text × Text)) := do
  let body ← Text.remainder? (opening name) text
  let (members, _) ← memberReader.all? (skipSpace body)
  return members

/-- The name of a member is read up to the sign that gives it a value. -/
theorem readKey?_hang (key rest tail : Text) :
    readKey? (Text.hang 1 (propertyKey key ++ (" = " ++ rest)) ++ tail) =
      some (Text.Literal.indented 1 (keyName key), "= " ++ (Text.hang 1 rest ++ tail)) := by
  have equals : Text.hang 1 (" = " ++ rest) = " = " ++ Text.hang 1 rest :=
    Text.hang_append_of_not_isBreak 1 " = " rest (by decide)
  have ends : EndsIdentifier (Text.hang 1 (" = " ++ rest) ++ tail) := by
    rw [equals]
    exact .cons rfl _
  rw [readKey?_hang_propertyKey key 0 ends, equals, List.append_assoc]
  rfl

private theorem readValue?_quoted (value rest : Text) :
    readValue? ("= " ++ (quoted value ++ ("," ++ rest))) = some (value, skipSpace rest) := by
  have opens : ("= " : Text) ++ (quoted value ++ ("," ++ rest)) =
      "= '" ++ (Text.Literal.body value ++ "'" ++ ("," ++ rest)) := by
    rfl
  rw [opens, readValue?, Text.remainder?_append]
  change (do
    let (value, rest) ← Quotation.finish? (.inside [])
      (Text.Literal.body value ++ "'" ++ ("," ++ rest))
    let rest ← Text.remainder? "," rest
    return (value, skipSpace rest)) = _
  rw [Quotation.finish?_body]
  change (do
    let rest ← Text.remainder? "," (("," : Text) ++ rest)
    return (value, skipSpace rest)) = _
  rw [Text.remainder?_append]
  rfl

private theorem reads_memberText (value : Text) :
    memberReader.Reads 1 (some (nameOf value, Text.Literal.indented 1 value))
      (memberText value) := by
  rw [memberText, memberName_eq, List.append_assoc, List.append_assoc]
  refine ⟨.append (.propertyKey _) _, fun tail => ?_⟩
  have comma : Text.hang 1 "," = "," := rfl
  change readMember? _ = _
  rw [readMember?, readKey?_hang, Text.hang_quoted, comma, List.append_assoc]
  change (do
    let (value, rest) ← readValue? ("= " ++ (quoted (Text.Literal.indented 1 value) ++
      ("," ++ tail)))
    return ((nameOf _, value), rest)) = _
  rw [readValue?_quoted]
  rfl

private theorem members?_declaration (name : Text) (values : List Text) (rest : Text) :
    members? name (opening name ++ bodyText values ++ rest) =
      some (values.map fun value => (nameOf value, Text.Literal.indented 1 value)) := by
  have read : memberReader.all? (skipSpace (bodyText values ++ rest)) =
      some (values.map (fun value => (nameOf value, Text.Literal.indented 1 value)), rest) := by
    have closes : skipSpace ("\n\x7d" ++ rest) = "\x7d" ++ rest := rfl
    have items := ItemReader.all?_lines_of_some
      (fun value (_ : value ∈ values) => reads_memberText value) closes rfl
    cases values with
    | nil => exact items
    | cons value others =>
        rw [bodyText, if_neg (by simp), List.append_assoc, List.append_assoc]
        exact items
  rw [members?, List.append_assoc, Text.remainder?_append]
  change (memberReader.all? _).bind _ = _
  rw [read]
  rfl

/-- The names of the members of an enumeration are as different as the members, unless two of these
share one. -/
theorem enumDeclaration_names {members : List Value} {texts : List Text}
    (given : members.filter (!isNull ·) = texts.map .text) (distinct : texts.Nodup) (name : Text) :
    ∃ text entries, enumDeclaration name members = .ok text ∧ members? name text = some entries ∧
      entries.map Prod.snd = texts.map (Text.Literal.indented 1) ∧
      ((entries.map Prod.fst).Nodup ↔
        ∀ text ∈ texts, ∀ other ∈ texts, ¬ SharesMemberName text other) := by
  have read := members?_declaration name texts []
  rw [List.append_nil] at read
  refine ⟨_, _, enumDeclaration_eq given name, read, ?_, ?_⟩
  · rw [List.map_map]
    rfl
  · rw [List.map_map]
    exact nodup_nameOf_iff distinct

theorem enumDeclaration_names_mixedMembers : ∃ text entries,
    enumDeclaration "A" [.text "1", .null, .text "it's", .text "_2", .text "\u00b2"] = .ok text ∧
    members? "A" text = some entries ∧ (entries.map Prod.fst).Nodup := by
  have given : [.text "1", .null, .text "it's", .text "_2", .text "\u00b2"].filter (!isNull ·) =
      [("1" : Text), ("it's" : Text), ("_2" : Text), ("\u00b2" : Text)].map .text := rfl
  obtain ⟨text, entries, written, read, -, distinct_iff⟩ :=
    enumDeclaration_names given (by decide) "A"
  exact ⟨text, entries, written, read, distinct_iff.mpr (by decide)⟩

/-- A number takes the name that another member has already. -/
theorem enumDeclaration_repeats_name :
    enumDeclaration "A" [.text "1", .text "_1"] =
      .ok "export enum A \x7b\n  _1 = '1',\n  _1 = '_1',\n\x7d" ∧
    members? "A" "export enum A \x7b\n  _1 = '1',\n  _1 = '_1',\n\x7d" =
      some [(("_1" : Text), ("1" : Text)), (("_1" : Text), ("_1" : Text))] :=
  ⟨rfl, members?_declaration "A" [("1" : Text), ("_1" : Text)] []⟩

end Enumeration

end Code

end ApiClient
