import ApiClient.Text.Decomposition
import ApiClient.Text.Split
import ApiClient.Text.Uppercase

/-! Names in generated code. -/

namespace ApiClient

/-! ## Identifiers -/

def isIdentifierStart (c : Char) : Bool :=
  ('A' ≤ c && c ≤ 'Z') || ('a' ≤ c && c ≤ 'z') || c == '_' || c == '$'

def isIdentifierPart (c : Char) : Bool :=
  isIdentifierStart c || ('0' ≤ c && c ≤ '9')

namespace Identifier

/-- The characters after the first one. A single line feed may end them. -/
def continues : Text → Bool
  | [] => true
  | [.char '\n'] => true
  | c :: rest => c.isIn isIdentifierPart && continues rest

def accepts : Text → Bool
  | [] => false
  | c :: rest => c.isIn isIdentifierStart && continues rest

example : accepts "$a_1" = true := by decide

example : accepts "1a" = false := by decide

end Identifier

def isIdentifier (name : Text) : Bool :=
  Identifier.accepts name

/-- Words that cannot name a class or a variable. -/
def reservedWords : List String := [
  "break", "case", "catch", "class", "const", "continue", "debugger", "default", "delete", "do",
  "else", "enum", "export", "extends", "false", "finally", "for", "function", "if", "import", "in",
  "instanceof", "new", "null", "return", "super", "switch", "this", "throw", "true", "try",
  "typeof", "var", "void", "while", "with", "implements", "interface", "let", "package", "private",
  "protected", "public", "static", "yield"]

def isReserved (name : Text) : Bool :=
  reservedWords.any fun word => name == word

/-! ## Class names

The letters and digits of a text form words. A text that is one word already keeps its form;
several words are joined, each with a capital. -/

def isAlphanumeric (c : Char) : Bool :=
  ('A' ≤ c && c ≤ 'Z') || ('a' ≤ c && c ≤ 'z') || ('0' ≤ c && c ≤ '9')

def joinWords (text : Text) : Text :=
  match Text.split (!·.isIn isAlphanumeric) text with
  | [word] => word
  | words => words.flatMap Text.capitalized

def isDigit (c : Char) : Bool :=
  '0' ≤ c && c ≤ '9'

def startsWithDigit : Text → Bool
  | [] => false
  | c :: _ => c.isIn isDigit

/-- A class name made of plain text: a digit is not left in front, nor a reserved word as it is. -/
def classNameOfPlain (text : Text) : Text :=
  let word := joinWords text
  let word := if startsWithDigit word then "_" ++ word else word
  if word.isEmpty then "Unnamed"
  else if isReserved word then word ++ "_"
  else word

def className (text : Text) : Text :=
  classNameOfPlain (Text.withoutMarks text)

/-! ## Variables -/

def plainPart (c : CodePoint) : CodePoint :=
  if c.isIn isIdentifierPart then c else '_'

/-- The local variable for a property. -/
def bindingName (name : Text) : Text :=
  if isIdentifier name && !isReserved name then name
  else
    let plain := (Text.withoutMarks name).map plainPart
    if plain.isEmpty || startsWithDigit plain || isReserved plain then "_" ++ plain
    else plain

end ApiClient
