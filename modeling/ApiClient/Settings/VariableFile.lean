import ApiClient.Settings.Expansion
import ApiClient.Text.Blank

/-! Files that list variables. A line gives a name, an equals sign and a value, which can be quoted
and then goes on over line ends. A line that reads otherwise is passed over. Values refer to other
variables: to those listed before them, and then to the environment. -/

namespace ApiClient.VariableFile

/-- A name, and the value after its equals sign, if it has one. -/
structure Entry where
  name : Text
  value : Option Text
  deriving DecidableEq, Repr

/-! ## Lines -/

/-- Blanks that do not end a line. -/
def isSpace (c : Char) : Bool :=
  Text.isBlank c && c != '\n' && c != '\r'

def endsLine (c : Char) : Bool :=
  c == '\n' || c == '\r'

def afterBreak : List Char → List Char
  | '\r' :: '\n' :: rest => rest
  | '\r' :: rest => rest
  | '\n' :: rest => rest
  | rest => rest

/-- What follows the line, of which only a comment may be left. -/
def lineEnd? (text : List Char) : Option (List Char) :=
  let rest :=
    match text.dropWhile isSpace with
    | '#' :: comment => comment.dropWhile (!endsLine ·)
    | rest => rest
  if rest.isEmpty then some []
  else if rest.head?.any endsLine then some (afterBreak rest)
  else none

def nextLine (text : List Char) : List Char :=
  afterBreak (text.dropWhile (!endsLine ·))

/-! ## Quotes

A quote that a backslash precedes does not end a value, unless no other quote does. -/

/-- The content up to the closing quote, and what follows it. -/
def upToQuote? (quote : Char) : List Char → Option (List Char × List Char)
  | [] => none
  | '\\' :: c :: rest =>
    if c = quote then
      match upToQuote? quote rest with
      | some (content, rest) => some ('\\' :: c :: content, rest)
      | none => some (['\\'], rest)
    else (upToQuote? quote (c :: rest)).map fun (content, rest) => ('\\' :: content, rest)
  | c :: rest =>
    if c = quote then some ([], rest)
    else (upToQuote? quote rest).map fun (content, rest) => (c :: content, rest)

example : upToQuote? '"' "a\\\"b\" c".toList = some ("a\\\"b".toList, " c".toList) := by decide

/-- The character for which a letter stands after a backslash, in double quotes. -/
def escaped? : Char → Option Char
  | '\\' => some '\\'
  | '\'' => some '\''
  | '"' => some '"'
  | 'a' => some '\x07'
  | 'b' => some '\x08'
  | 'f' => some '\x0c'
  | 'n' => some '\n'
  | 'r' => some '\r'
  | 't' => some '\t'
  | 'v' => some '\x0b'
  | _ => none

/-- In single quotes, a backslash stands before itself and before a quote. -/
def escapedInSingle? (c : Char) : Option Char :=
  if c = '\\' ∨ c = '\'' then some c else none

def unescaped (meaning? : Char → Option Char) : List Char → List Char
  | '\\' :: c :: rest =>
    match meaning? c with
    | some value => value :: unescaped meaning? rest
    | none => '\\' :: unescaped meaning? (c :: rest)
  | c :: rest => c :: unescaped meaning? rest
  | [] => []

/-! ## Entries -/

/-- A value without quotes goes on to the end of the line, or to a comment after a blank. -/
def withoutComment : List Char → List Char
  | [] => []
  | c :: rest =>
    if Text.isBlank c && (rest.dropWhile Text.isBlank).head? == some '#' then []
    else c :: withoutComment rest

/-- The value at the start of a text, and what follows it. -/
def value? (text : List Char) : Option (List Char × List Char) :=
  match text with
  | '\'' :: quoted =>
    (upToQuote? '\'' quoted).map fun (content, rest) => (unescaped escapedInSingle? content, rest)
  | '"' :: quoted =>
    (upToQuote? '"' quoted).map fun (content, rest) => (unescaped escaped? content, rest)
  | text =>
    let line := text.takeWhile (!endsLine ·)
    some (Text.trimEnd Text.isBlank (withoutComment line), text.drop line.length)

def exportWord : List Char := "export".toList

/-- What follows the word that may stand before a name. -/
def afterExport (text : List Char) : List Char :=
  let rest := text.drop exportWord.length
  if exportWord.isPrefixOf text && rest.head?.any isSpace then rest.dropWhile isSpace else text

/-- The name at the start of a text, which can be quoted. There is none in a comment. -/
def name? (text : List Char) : Option (Option (List Char) × List Char) :=
  match text with
  | '#' :: _ => some (none, text)
  | '\'' :: quoted =>
    let name := quoted.takeWhile (· != '\'')
    match quoted.drop name.length with
    | _ :: rest => if name.isEmpty then none else some (some name, rest)
    | [] => none
  | text =>
    let name := text.takeWhile fun c => c != '=' && c != '#' && !Text.isBlank c
    if name.isEmpty then none else some (some name, text.drop name.length)

/-- What a line starts with, up to where it fails to read as an entry. -/
structure Reading where
  entry : Option Entry
  rest : List Char

def read (text : List Char) : Reading :=
  let text := afterExport text
  match name? text with
  | none => ⟨none, nextLine text⟩
  | some (name, rest) =>
    let rest := rest.dropWhile isSpace
    let entry (value : Option (List Char)) (rest : List Char) : Reading :=
      match lineEnd? rest with
      | none => ⟨none, nextLine rest⟩
      | some rest =>
        ⟨name.map fun name => ⟨Text.ofCharacters name, value.map Text.ofCharacters⟩, rest⟩
    match rest with
    | '=' :: rest =>
      match value? (rest.dropWhile isSpace) with
      | none => ⟨none, nextLine (rest.dropWhile isSpace)⟩
      | some (value, rest) => entry (some value) rest
    | rest => entry none rest

/-- Every line takes at least one character. -/
def entriesFrom : (fuel : Nat) → List Char → List Entry
  | 0, _ => []
  | fuel + 1, text =>
    match text.dropWhile Text.isBlank with
    | [] => []
    | text =>
      let reading := read text
      reading.entry.toList ++ entriesFrom fuel reading.rest

def entries (text : List Char) : List Entry :=
  entriesFrom text.length text

example : entries "export A='x' # c\nB = y#z #\n?".toList =
    [⟨"A", some "x"⟩, ⟨"B", some "y#z"⟩, ⟨"?", none⟩] := by decide

/-! ## Variables -/

/-- Give a name a value: in place where the name is there, at the end where it is not. -/
def put (entry : Entry) : List Entry → List Entry
  | [] => [entry]
  | other :: rest => if other.name = entry.name then entry :: rest else other :: put entry rest

/-- What a reference stands for. A name that is listed without a value stands for nothing. -/
def meaning (environment : Environment) (done : List Entry) (reference : Expansion.Reference) :
    Text :=
  match done.find? (·.name == reference.name) with
  | some entry => entry.value.getD []
  | none => ((environment.get? reference.name).or reference.fallback).getD []

def expandedWith (meaning : Expansion.Reference → Text) (value : Text) : Text :=
  (Expansion.parts (fun _ => true) value).flatMap fun
    | .plain c => [c]
    | .reference reference => meaning reference

/-- The variables of a file. A name without a value has none. -/
def listing (environment : Environment) (text : List Char) : List Entry :=
  (entries text).foldl (fun done entry =>
    put { entry with value := entry.value.map (expandedWith (meaning environment done)) } done) []

end ApiClient.VariableFile
