import ApiClient.Data.Value
import ApiClient.Text.Utf8

/-! References to environment variables inside texts. A reference names a variable and may give a
text to take where the variable is not set. What takes the place of a reference is not looked at
again, and what is no complete reference stays as it is. -/

namespace ApiClient

/-- Variables with their values. -/
abbrev Environment := List (Text × Text)

def Environment.get? (name : Text) : Environment → Option Text
  | [] => none
  | (other, value) :: rest => if other = name then some value else get? name rest

/-- The value of a variable that is set. The system tells variables apart by the octets of their
names. -/
def Environment.value? (environment : Environment) (name : Text) : Option Text :=
  (environment.find? fun entry => Text.Utf8.nameOctets entry.1 == Text.Utf8.nameOctets name).map
    (·.2)

namespace Expansion

structure Reference where
  name : Text
  fallback : Option Text
  deriving DecidableEq, Repr

def isNamePart (c : CodePoint) : Bool :=
  c != '}' && c != ':'

def isFallbackPart (c : CodePoint) : Bool :=
  c != '}'

/-- A reference after its opening, and what follows it. -/
def reference? (text : Text) : Option (Reference × Text) :=
  let name := text.takeWhile isNamePart
  match text.dropWhile isNamePart with
  | .char '}' :: rest => some (⟨name, none⟩, rest)
  | .char ':' :: .char '-' :: more =>
    match more.dropWhile isFallbackPart with
    | .char '}' :: rest => some (⟨name, some (more.takeWhile isFallbackPart)⟩, rest)
    | _ => none
  | _ => none

example : reference? "A:-b\x7dc" = some (⟨"A", some "b"⟩, ("c" : Text)) := by decide

example : reference? "A:b\x7d" = none := by decide

theorem length_dropWhile_le (among : CodePoint → Bool) (text : Text) :
    (text.dropWhile among).length ≤ text.length :=
  (List.dropWhile_sublist among).length_le

theorem reference?_length {text rest : Text} {reference : Reference}
    (found : reference? text = some (reference, rest)) : rest.length < text.length := by
  have whole := length_dropWhile_le isNamePart text
  unfold reference? at found
  simp only at found
  split at found
  · next equal =>
    simp only [Option.some.injEq, Prod.mk.injEq] at found
    rw [equal, found.2, List.length_cons] at whole
    exact whole
  · next more equal =>
    have further := length_dropWhile_le isFallbackPart more
    rw [equal, List.length_cons, List.length_cons] at whole
    split at found
    · next equal =>
      simp only [Option.some.injEq, Prod.mk.injEq] at found
      rw [equal, found.2, List.length_cons] at further
      omega
    · simp at found
  · simp at found

/-- Parts of a text: characters that stand for themselves, and references. -/
inductive Part where
  | plain (c : CodePoint)
  | reference (reference : Reference)
  deriving DecidableEq, Repr

/-- The parts of a text, found from the left. Only references to some names count as such. -/
def parts (isName : Text → Bool) : Text → List Part
  | [] => []
  | .char '$' :: .char '{' :: text =>
    match _found : reference? text with
    | some (reference, rest) =>
      if isName reference.name then .reference reference :: parts isName rest
      else .plain '$' :: parts isName (.char '{' :: text)
    | none => .plain '$' :: parts isName (.char '{' :: text)
  | c :: text => .plain c :: parts isName text
termination_by text => text.length
decreasing_by
  · have := reference?_length _found
    simp only [List.length_cons]
    omega
  all_goals simp

/-- What keeps data from being expanded: a name that no variable can have, a variable that is not
set, in a reference that gives no other text, or data that never ends. -/
inductive Obstacle where
  | unencodable (fault : Text.Utf8.Unencodable)
  | unset (name : Text)
  | endless
  deriving DecidableEq, Repr

def Part.value (environment : Environment) : Part → Except Obstacle Text
  | .plain c => .ok [c]
  | .reference ⟨name, fallback⟩ =>
    match Text.Utf8.unencodable? name, (environment.value? name).or fallback with
    | some fault, _ => .error (.unencodable fault)
    | none, some value => .ok value
    | none, none => .error (.unset name)

/-- The text with every reference replaced, or the first one that cannot be. A reference has a
name. -/
def expand (environment : Environment) (text : Text) : Except Obstacle Text := do
  let values ← (parts (· != []) text).mapM (Part.value environment)
  return values.flatten

/-! ## Data

Every text in lists and mappings is expanded, apart from keys. -/

mutual

def expandData (environment : Environment) : Value → Except Obstacle Value
  | .text value => .text <$> expand environment value
  | .list items => .list <$> expandItems environment items
  | .map entries => .map <$> expandEntries environment entries
  | .cycle _ content => expandData environment content
  | .again _ _ => .error .endless
  | value => .ok value

def expandItems (environment : Environment) : List Value → Except Obstacle (List Value)
  | [] => .ok []
  | item :: rest => do
    let item ← expandData environment item
    return item :: (← expandItems environment rest)

def expandEntries (environment : Environment) :
    List (Value × Value) → Except Obstacle (List (Value × Value))
  | [] => .ok []
  | (key, value) :: rest => do
    let value ← expandData environment value
    return (key, value) :: (← expandEntries environment rest)

end

end Expansion

end ApiClient
