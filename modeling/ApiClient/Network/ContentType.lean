import ApiClient.Text.Blank
import ApiClient.Text.Charset
import ApiClient.Text.Numeral
import ApiClient.Text.Split

/-! The parameters of a content type, and the encoding of text that they name. -/

namespace ApiClient.Network.ContentType

/-! ## Pieces -/

/-- A text cut at semicolons that no quotes enclose. A quote after a backslash is none. -/
def pieces (isQuoted isEscaped : Bool) : List Char → List (List Char)
  | [] => [[]]
  | c :: rest =>
    if c = ';' ∧ !isQuoted then [] :: pieces false false rest
    else
      let turns := c == '"' && !isEscaped
      match pieces (isQuoted != turns) (c == '\\') rest with
      | [] => [[c]]
      | piece :: more => (c :: piece) :: more

example : pieces false false "a;b=\"c;d\"".toList = ["a".toList, "b=\"c;d\"".toList] := by decide

structure Field where
  name : List Char
  value : List Char
  deriving DecidableEq, Repr

def trimmed (text : List Char) : List Char :=
  Text.trim Text.isBlank text

def Field.ofPiece (piece : List Char) : Field :=
  match Text.cut (· == '=') piece with
  | (name, []) => ⟨trimmed name, []⟩
  | (name, _ :: value) => ⟨(trimmed name).map Char.toLower, trimmed value⟩

example : Field.ofPiece " Charset = x ".toList = ⟨"charset".toList, ['x']⟩ := by decide

/-! ## Quotes -/

/-- What stands between two marks that are the ends of a text. -/
def between? (first last : Char) : List Char → Option (List Char)
  | [] => none
  | c :: rest => if c = first ∧ rest.getLast? = some last then some rest.dropLast else none

/-- A text without the quotes or angle brackets around it. -/
def unquoted (text : List Char) : List Char :=
  match between? '"' '"' text with
  | some inner => Text.replaceAll '\\' ['"'] ['"'] (Text.replaceAll '\\' ['\\'] ['\\'] inner)
  | none => (between? '<' '>' text).getD text

def escaped (text : List Char) : List Char :=
  text.flatMap fun c => if c = '\\' ∨ c = '"' then ['\\', c] else [c]

example : unquoted "\"a\\\"b\"".toList = "a\"b".toList := by decide +kernel

def quoted (text : List Char) : List Char :=
  '"' :: text ++ ['"']

/-! ## Segments

A value can come in numbered segments. A segment whose name ends with an asterisk writes some of its
octets as two hexadecimal digits after a percent sign. -/

structure Segment where
  number : Option Nat
  value : List Char
  isEscaped : Bool
  deriving DecidableEq, Repr

def isWord (c : Char) : Bool :=
  c.isAlphanum || c == '_'

/-- The name of a value in segments, and the number of one of them. -/
def segmentName? (name : List Char) : Option (List Char × Option Nat) :=
  match name.takeWhile isWord, name.dropWhile isWord with
  | _ :: _, ['*'] => some (name.takeWhile isWord, none)
  | _ :: _, '*' :: rest =>
    let digits := rest.takeWhile Char.isDigit
    let rest := rest.dropWhile Char.isDigit
    if !digits.isEmpty ∧ (rest = [] ∨ rest = ['*']) then
      some (name.takeWhile isWord, some (digits.foldl (fun n c => 10 * n + (c.toNat - 0x30)) 0))
    else none
  | _, _ => none

example : segmentName? "a*12*".toList = some (['a'], some 12) := by decide

/-- The octets that escapes write, as characters. -/
def withoutEscapes : List Char → List Char
  | '%' :: high :: low :: rest =>
    match Text.Numeral.digitIn? 16 high, Text.Numeral.digitIn? 16 low with
    | some high, some low => Char.ofNat (16 * high + low) :: withoutEscapes rest
    | _, _ => '%' :: withoutEscapes (high :: low :: rest)
  | c :: rest => c :: withoutEscapes rest
  | [] => []

/-- The order of texts by their characters. -/
def isBefore : List Char → List Char → Bool
  | _, [] => false
  | [], _ :: _ => true
  | c :: rest, d :: others => c < d || (c == d && isBefore rest others)

/-- Segments come by their numbers, then by their values. -/
def Segment.isBefore (segment other : Segment) : Bool :=
  let number := segment.number.getD 0
  let otherNumber := other.number.getD 0
  number < otherNumber || (number == otherNumber &&
    (ContentType.isBefore segment.value other.value || (segment.value == other.value &&
      !segment.isEscaped && other.isEscaped)))

/-- Put a segment behind those that do not come after it. -/
def insert (segment : Segment) : List Segment → List Segment
  | [] => [segment]
  | other :: rest =>
    if segment.isBefore other then segment :: other :: rest else other :: insert segment rest

/-- Why the encoding of a text cannot be told: of two segments in a row one has a number and the
other has none, or there is no text in it. -/
inductive Fault where
  | mixedSegments (isNumberLast : Bool)
  | charset (fault : Text.CharsetFault)
  deriving DecidableEq, Repr

def Fault.message : Fault → String
  | .mixedSegments isNumberLast =>
    let kinds := if isNumberLast then "'int' and 'NoneType'" else "'NoneType' and 'int'"
    "'<' not supported between instances of " ++ kinds
  | .charset fault => fault.message

/-- Segments can be put in order if all of them have numbers, or none has. -/
def checkNumbers : List Segment → Except Fault Unit
  | segment :: other :: rest =>
    if segment.number.isSome = other.number.isSome then checkNumbers (other :: rest)
    else throw (.mixedSegments other.number.isSome)
  | _ => return

/-! ## Parameters -/

/-- A value, and the encoding of its octets if it came with the name of one. -/
structure Parameter where
  name : List Char
  charset : Option (List Char) := none
  value : List Char
  isExtended : Bool := false
  deriving DecidableEq, Repr

/-- A value from its segments. If one of them is escaped the encoding and the language stand before
the value, with apostrophes after them. -/
def Parameter.ofSegments (name : List Char) (segments : List Segment) : Except Fault Parameter := do
  checkNumbers segments
  let segments := segments.foldl (fun sorted segment => insert segment sorted) []
  let text := escaped (segments.flatMap fun segment =>
    if segment.isEscaped then withoutEscapes segment.value else segment.value)
  let isExtended := segments.any (·.isEscaped)
  match Text.cut (· == '\'') text with
  | (charset, _ :: rest) =>
    match Text.cut (· == '\'') rest with
    | (_, _ :: value) =>
      if isExtended then return ⟨name, some charset, unquoted (quoted value), true⟩
      else return ⟨name, none, unquoted (quoted text), false⟩
    | _ => return ⟨name, none, unquoted (quoted text), isExtended⟩
  | _ => return ⟨name, none, unquoted (quoted text), isExtended⟩

/-- Put a segment to those of the same name. -/
def gather (name : List Char) (segment : Segment) :
    List (List Char × List Segment) → List (List Char × List Segment)
  | [] => [(name, [segment])]
  | (other, segments) :: rest =>
    if other = name then (other, segments ++ [segment]) :: rest
    else (other, segments) :: gather name segment rest

/-- The parameters of a header. What stands first is taken as it is, and values in segments come
last. -/
def parameters (header : List Char) : Except Fault (List Parameter) := do
  match (pieces false false header).map Field.ofPiece with
  | [] => return []
  | first :: fields =>
    let (whole, segmented) := fields.partition fun field => (segmentName? field.name).isNone
    let groups := segmented.foldl (fun groups field =>
      match segmentName? field.name with
      | none => groups
      | some (name, number) =>
        gather name ⟨number, unquoted field.value, field.name.getLast? = some '*'⟩ groups) []
    let extended ← groups.mapM fun (name, segments) => Parameter.ofSegments name segments
    let plain := whole.map fun field =>
      { name := field.name, value := unquoted (quoted (escaped (unquoted field.value))) }
    return { name := first.name, value := unquoted first.value } :: plain ++ extended

/-! ## Encodings -/

def isAscii (text : List Char) : Bool :=
  text.all (·.toNat < 0x80)

/-- The text of a value. It stays as it is where its octets are no text in their encoding. -/
def Parameter.text (parameter : Parameter) : Except Fault (List Char) :=
  if !parameter.isExtended then return parameter.value
  else
    let name := match parameter.charset with
      | none | some [] => "us-ascii".toList
      | some name => name
    if name.contains '\x00' then throw (.charset .badName)
    else
      let octets := parameter.value.map fun c => UInt8.ofNat c.toNat
      return (((Text.Charset.named? name).bind (·.read octets |>.toOption)).getD parameter.value)

/-- The encoding of text that a content type names, or UTF-8 if none is known. -/
def charset (header : List Char) : Except Fault Text.Charset := do
  let found := (← parameters header).find? fun parameter =>
    parameter.name.map Char.toLower = "charset".toList
  let name ← match found with
    | none => pure []
    | some parameter => parameter.text
  if !isAscii name then return Text.Charset.utf8
  else if name.contains '\x00' then throw (.charset .badName)
  else return (Text.Charset.named? name).getD Text.Charset.utf8

/-- Octets as text in the encoding that a content type names. No octets are no text in any. -/
def decode (header : List Char) (octets : List UInt8) : Except Fault (List Char) := do
  if octets.isEmpty then return []
  else ((← charset header).decode octets).mapError Fault.charset

end ApiClient.Network.ContentType
