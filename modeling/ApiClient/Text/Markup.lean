import ApiClient.Text.Markup.Style
import ApiClient.Text.Pictograph

/-! Text with tags for the styles of a terminal. A tag stands in brackets and begins with a small
letter or with one of a few marks; a slash begins one that closes another. A backslash before a tag
makes it plain text. -/

namespace ApiClient.Text.Markup

/-! ## Tags -/

def startsTag (c : Char) : Bool :=
  c.isLower || c == '#' || c == '/' || c == '@'

/-- The tag at the start of a text, with what follows it. -/
def tag? : List Char → Option (List Char × List Char)
  | '[' :: c :: text =>
    if startsTag c then
      match cut (fun c => c == ']' || c == '[') (c :: text) with
      | (name, ']' :: rest) => some (name, rest)
      | _ => none
    else none
  | _ => none

theorem tag?_length {text name rest : List Char} (found : tag? text = some (name, rest)) :
    rest.length < text.length := by
  unfold tag? at found
  split at found
  · rename_i c text
    split at found
    · have shorter := cut_length_le (fun c => c == ']' || c == '[') (c :: text)
      split at found
      · rename_i parts
        rw [parts] at shorter
        simp only [Option.some.injEq, Prod.mk.injEq] at found
        obtain ⟨_, rfl⟩ := found
        simp only [List.length_cons] at shorter ⊢
        omega
      · simp at found
    · simp at found
  · simp at found

/-- A tag with the text before it, up to the tag before that, and the backslashes between the two.
-/
structure Occurrence where
  before : List Char
  slashes : Nat
  name : List Char
  deriving DecidableEq, Repr

/-- The tags of a text, and what follows the last one. -/
def occurrences : List Char → List Occurrence × List Char
  | [] => ([], [])
  | c :: text =>
    match _found : tag? (c :: text) with
    | some (name, rest) =>
      let (others, last) := occurrences rest
      (⟨[], 0, name⟩ :: others, last)
    | none =>
      match occurrences text with
      | ([], last) => ([], c :: last)
      | (first :: others, last) =>
        if c = '\\' ∧ first.before = [] then
          ({ first with slashes := first.slashes + 1 } :: others, last)
        else ({ first with before := c :: first.before } :: others, last)
termination_by text => text.length
decreasing_by
  · exact tag?_length _found
  · simp

example : occurrences "a\\[b]c".toList = ([⟨['a'], 1, ['b']⟩], ['c']) := by decide +kernel

/-! ## Pieces

Pictographs are named inside one piece. -/

inductive Piece where
  | plain (text : List Char)
  | tag (name : List Char)
  deriving DecidableEq, Repr

/-- Of backslashes before a bracket that starts no tag, one is dropped. -/
def plainPiece (text : List Char) : Piece :=
  .plain (Pictograph.shownIn (replaceAll '\\' ['['] ['['] text))

/-- Half of the backslashes before a tag stay. One that is left over makes the tag plain text. -/
def Occurrence.pieces (tag : Occurrence) : List Piece :=
  let kept := List.replicate (tag.slashes / 2) '\\'
  [plainPiece tag.before, .plain kept,
    if tag.slashes % 2 = 0 then .tag tag.name else plainPiece ('[' :: tag.name ++ [']'])]

def pieces (text : List Char) : List Piece :=
  let (tags, last) := occurrences text
  tags.flatMap Occurrence.pieces ++ [plainPiece last]

/-! ## Handlers

A tag that begins with an at sign calls for something to be done. What it is set to is a name with
values in parentheses, or values alone. -/

/-- A value without its parts: a number, a text in quotes, or one of a few words. -/
def isPlainValue (text : List Char) : Bool :=
  match trim isBlank text with
  | [] => false
  | c :: rest =>
    if c = '\'' ∨ c = '"' then
      rest.getLast? = some c ∧ rest.dropLast.all fun d => d != c && d != '\\' && d != '\n'
    else
      (c :: rest).all Char.isDigit ||
        ["True", "False", "None"].contains (String.ofList (c :: rest))

def areValues (text : List Char) : Bool :=
  match split (· == ',') text with
  | [part] => isPlainValue part || part.all isBlank
  | parts => parts.dropLast.all isPlainValue && (parts.getLast?.all fun part =>
      isPlainValue part || part.all isBlank)

def isHandlerPart (c : Char) : Bool :=
  c.isAlphanum || c == '_' || c == '.'

/-- Whether what a handler is set to can be read. -/
def isHandler (setting : List Char) : Bool :=
  match (trim isBlank setting).dropWhile isHandlerPart with
  | [] => true
  | '(' :: rest => rest.getLast? = some ')' && areValues rest.dropLast
  | _ => isPlainValue setting

/-! ## Tags that match -/

/-- A tag in two parts, before and after its equals sign. -/
structure Tag where
  name : Text
  setting : List Char
  deriving DecidableEq, Repr

def Tag.ofText (text : List Char) : Tag :=
  ⟨normalForm (ofCharacters (text.takeWhile (· != '='))), (text.dropWhile (· != '=')).drop 1⟩

/-- Whether a tag may be closed. -/
def Tag.isSound (tag : Tag) : Bool :=
  tag.name.head? != some '@' || tag.setting.isEmpty || isHandler tag.setting

/-- The tag to close, the last one that is open if none is named, and the others. -/
def close (name : Option Text) : List Tag → Option (Tag × List Tag)
  | [] => none
  | last :: others =>
    if name.all (· == last.name) then some (last, others)
    else (close name others).map fun (tag, others) => (tag, last :: others)

/-- The name in a closing tag, which may be left out. -/
def closedName (text : List Char) : Option Text :=
  let name := ofCharacters (trim isBlank (text.takeWhile (· != '=')))
  if name.isEmpty then none else some (normalForm name)

/-- The plain text of pieces, given the tags that are open. No tag is closed that is not open. -/
def plainFrom (opened : List Tag) : List Piece → Option (List Char)
  | [] => some []
  | .plain text :: rest => (plainFrom opened rest).map (text ++ ·)
  | .tag name :: rest =>
    match name with
    | '/' :: name =>
      match close (closedName name) opened with
      | some (tag, opened) => if tag.isSound then plainFrom opened rest else none
      | none => none
    | name => plainFrom (Tag.ofText name :: opened) rest

/-- The plain text of a text with tags, if these match. -/
def plain? (text : List Char) : Option (List Char) :=
  plainFrom [] (pieces text)

end ApiClient.Text.Markup
