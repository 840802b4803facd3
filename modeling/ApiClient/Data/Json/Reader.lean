import ApiClient.Data.Value
import ApiClient.Text.Numeral
import ApiClient.Text.Utf8

/-! Reading JSON text. Integers keep all their digits; a number with a fraction or an exponent is
rounded to binary64; `NaN` and the two infinities are numbers. A repeated key keeps its first place
and takes its last value.

The reader takes characters off the front of the text and counts them, so that a fault can say where
it was found. -/

namespace ApiClient.Json

inductive Reason where
  | byteOrderMark
  | value
  | propertyName
  | colon
  | comma
  | extraData
  | unterminatedString
  | controlCharacter
  | escape
  | unicodeEscape
  deriving DecidableEq, Repr

/-- What was expected or found, with its line and column and its place in the whole text. -/
structure Fault where
  reason : Reason
  line : Nat
  column : Nat
  position : Nat
  deriving DecidableEq, Repr

/-- Collections, by the word for them. -/
inductive Nest where
  | array
  | object
  deriving DecidableEq, Repr

/-- An integer beyond the digit limit and a collection inside too many others are refused, but not
as faults of the grammar. -/
inductive Refusal where
  | grammar (reason : Reason) (position : Nat)
  | tooManyDigits (count : Nat)
  | tooDeep (nest : Nest)
  deriving DecidableEq, Repr

/-- The greatest number of collections inside each other. -/
def nestingLimit : Nat := 988

structure Cursor where
  rest : List Char
  position : Nat
  deriving DecidableEq, Repr

namespace Cursor

def refuse {α : Type} (cursor : Cursor) (reason : Reason) : Except Refusal α :=
  .error (.grammar reason cursor.position)

/-- Go on after the longest leading run of a class of characters. -/
def skip (cursor : Cursor) (among : Char → Bool) : Cursor :=
  let skipped := cursor.rest.takeWhile among
  ⟨cursor.rest.drop skipped.length, cursor.position + skipped.length⟩

def advance (cursor : Cursor) (count : Nat) : Cursor :=
  ⟨cursor.rest.drop count, cursor.position + count⟩

end Cursor

def isSpace (c : Char) : Bool :=
  c == ' ' || c == '\t' || c == '\n' || c == '\r'

/-! ## Strings -/

/-- The UTF-16 unit that four hexadecimal digits write. -/
def unit? (digits : List Char) : Option Nat :=
  if digits.length < 4 then none
  else (digits.take 4).foldlM (fun value c => (Text.Numeral.digitIn? 16 c).map (16 * value + ·)) 0

def plainEscape? : Char → Option Char
  | '"' => some '"'
  | '\\' => some '\\'
  | '/' => some '/'
  | 'b' => some '\x08'
  | 'f' => some '\x0c'
  | 'n' => some '\n'
  | 'r' => some '\r'
  | 't' => some '\t'
  | _ => none

/-- The code point of a `\u` escape whose digits come next, and how many characters it takes. A high
surrogate joins with the low one escaped after it. -/
def unicodeEscape (cursor : Cursor) : Except Refusal (CodePoint × Nat) :=
  let refusal := Refusal.grammar .unicodeEscape (cursor.position - 1)
  if (cursor.rest.take 5).length < 5 then .error refusal
  else
    match unit? cursor.rest with
    | none => .error refusal
    | some unit =>
      let alone := CodePoint.ofNat unit
      match cursor.rest.drop 4 with
      | '\\' :: 'u' :: more =>
        if CodePoint.isHighHalf unit ∧ 5 ≤ (more.take 5).length then
          match unit? more with
          | none => .error (.grammar .unicodeEscape (cursor.position + 5))
          | some low =>
            match CodePoint.pair? unit low with
            | some c => .ok (c, 10)
            | none => .ok (alone, 4)
        else .ok (alone, 4)
      | _ => .ok (alone, 4)

/-- The rest of a string after its opening quote, whose position is `opening`. Characters are
gathered last first. -/
def string (opening : Nat) : (fuel : Nat) → Text → Cursor → Except Refusal (Text × Cursor)
  | 0, _, _ => .error (.grammar .unterminatedString opening)
  | fuel + 1, done, cursor =>
    match cursor.rest with
    | [] | ['\\'] => .error (.grammar .unterminatedString opening)
    | '"' :: _ => .ok (done.reverse, cursor.advance 1)
    | '\\' :: 'u' :: _ => do
      let ⟨c, size⟩ ← unicodeEscape (cursor.advance 2)
      string opening fuel (c :: done) (cursor.advance (2 + size))
    | '\\' :: c :: _ =>
      match plainEscape? c with
      | some c => string opening fuel (.char c :: done) (cursor.advance 2)
      | none => cursor.refuse .escape
    | c :: _ =>
      if c.toNat < 0x20 then cursor.refuse .controlCharacter
      else string opening fuel (.char c :: done) (cursor.advance 1)

/-! ## Numbers -/

def isDigit (c : Char) : Bool :=
  '0' ≤ c && c ≤ '9'

def natural (digits : List Char) : Nat :=
  digits.foldl (fun value c => 10 * value + (c.toNat - 0x30)) 0

/-- The digits of a fraction, if a point and at least one digit come next. -/
def fraction : List Char → List Char
  | '.' :: rest => rest.takeWhile isDigit
  | _ => []

/-- The characters of an exponent and its value, if a complete one comes next. -/
def exponent? : List Char → Option (Nat × Int)
  | mark :: rest =>
    if mark == 'e' || mark == 'E' then
      let ⟨negative, size, rest⟩ : Bool × Nat × List Char :=
        match rest with
        | '-' :: rest => (true, 2, rest)
        | '+' :: rest => (false, 2, rest)
        | rest => (false, 1, rest)
      let digits := rest.takeWhile isDigit
      if digits.isEmpty then none
      else
        let value : Int := natural digits
        some (size + digits.length, if negative then -value else value)
    else none
  | [] => none

def number (cursor : Cursor) : Except Refusal (Value × Cursor) :=
  let negative := cursor.rest.head? == some '-'
  let unsigned := if negative then cursor.advance 1 else cursor
  let whole :=
    match unsigned.rest with
    | '0' :: _ => ['0']
    | rest => rest.takeWhile isDigit
  if whole.isEmpty then cursor.refuse .value
  else
    let afterWhole := unsigned.advance whole.length
    let fraction := fraction afterWhole.rest
    let afterFraction :=
      if fraction.isEmpty then afterWhole else afterWhole.advance (1 + fraction.length)
    match fraction, exponent? afterFraction.rest with
    | [], none =>
      if whole.length > Value.digitLimit then .error (.tooManyDigits whole.length)
      else
        let value : Int := natural whole
        .ok (.int (if negative then -value else value), afterWhole)
    | fraction, exponent =>
      let ⟨size, power⟩ := exponent.getD (0, 0)
      let digits := natural (whole ++ fraction)
      .ok (.real (Binary64.ofDecimal negative digits (power - fraction.length)),
        afterFraction.advance size)

/-! ## Values -/

/-- Words that stand for a value. -/
def words : List (List Char × Value) := [
  ("null".toList, .null), ("true".toList, .bool true), ("false".toList, .bool false),
  ("NaN".toList, .real .notANumber), ("Infinity".toList, .real (.infinite false)),
  ("-Infinity".toList, .real (.infinite true))]

mutual

/-- Every value, every separator and every character of a string takes at least one character, so
twice the length of the text is fuel enough. -/
def value : (fuel room : Nat) → Cursor → Except Refusal (Value × Cursor)
  | 0, _, cursor => cursor.refuse .value
  | fuel + 1, room, cursor =>
    match cursor.rest with
    | [] => cursor.refuse .value
    | '"' :: _ => do
      let ⟨text, after⟩ ← string cursor.position fuel [] (cursor.advance 1)
      return (.text text, after)
    | '{' :: _ =>
      let inside := (cursor.advance 1).skip isSpace
      if room = 0 then .error (.tooDeep .object)
      else if inside.rest.head? == some '}' then .ok (.map [], inside.advance 1)
      else do
        let ⟨entries, after⟩ ← members fuel (room - 1) [] inside
        return (.map entries, after)
    | '[' :: _ =>
      let inside := (cursor.advance 1).skip isSpace
      if room = 0 then .error (.tooDeep .array)
      else if inside.rest.head? == some ']' then .ok (.list [], inside.advance 1)
      else do
        let ⟨items, after⟩ ← elements fuel (room - 1) [] inside
        return (.list items, after)
    | _ =>
      match words.find? fun word => word.1.isPrefixOf cursor.rest with
      | some (word, value) => .ok (value, cursor.advance word.length)
      | none => number cursor

/-- The members of an object from the first one, or the one after a comma, to its end. -/
def members : (fuel room : Nat) → List (Value × Value) → Cursor →
    Except Refusal (List (Value × Value) × Cursor)
  | 0, _, _, cursor => cursor.refuse .propertyName
  | fuel + 1, room, done, cursor =>
    match cursor.rest with
    | '"' :: _ => do
      let ⟨name, after⟩ ← string cursor.position fuel [] (cursor.advance 1)
      let after := after.skip isSpace
      if after.rest.head? != some ':' then after.refuse .colon
      else
        let ⟨value, after⟩ ← value fuel room ((after.advance 1).skip isSpace)
        let done := Value.put (.text name) value done
        let after := after.skip isSpace
        match after.rest with
        | '}' :: _ => return (done, after.advance 1)
        | ',' :: _ => members fuel room done ((after.advance 1).skip isSpace)
        | _ => after.refuse .comma
    | _ => cursor.refuse .propertyName

/-- The elements of an array, gathered last first. -/
def elements : (fuel room : Nat) → List Value → Cursor → Except Refusal (List Value × Cursor)
  | 0, _, _, cursor => cursor.refuse .value
  | fuel + 1, room, done, cursor => do
    let ⟨value, after⟩ ← value fuel room cursor
    let after := after.skip isSpace
    match after.rest with
    | ']' :: _ => return ((value :: done).reverse, after.advance 1)
    | ',' :: _ => elements fuel room (value :: done) ((after.advance 1).skip isSpace)
    | _ => after.refuse .comma

end

/-! ## Whole texts -/

inductive Failure where
  | grammar (fault : Fault)
  | tooManyDigits (count : Nat)
  | tooDeep (nest : Nest)
  deriving DecidableEq, Repr

/-- Lines end at line feeds; columns count from one. -/
def Fault.locate (text : List Char) (reason : Reason) (position : Nat) : Fault :=
  let before := text.take position
  { reason
    line := before.count '\n' + 1
    column := (before.reverse.takeWhile (· != '\n')).length + 1
    position }

def read (characters : List Char) : Except Failure Value :=
  let outcome : Except Refusal Value :=
    if characters.head? == some '\ufeff' then .error (.grammar .byteOrderMark 0)
    else do
      let ⟨value, after⟩ ←
        value (2 * characters.length + 2) nestingLimit ((Cursor.mk characters 0).skip isSpace)
      let after := after.skip isSpace
      if after.rest.isEmpty then return value else after.refuse .extraData
  outcome.mapError fun
    | .grammar reason position => .grammar (.locate characters reason position)
    | .tooManyDigits count => .tooManyDigits count
    | .tooDeep nest => .tooDeep nest

def Reason.message : Reason → Text
  | .byteOrderMark => "Unexpected UTF-8 BOM (decode using utf-8-sig)"
  | .value => "Expecting value"
  | .propertyName => "Expecting property name enclosed in double quotes"
  | .colon => "Expecting ':' delimiter"
  | .comma => "Expecting ',' delimiter"
  | .extraData => "Extra data"
  | .unterminatedString => "Unterminated string starting at"
  | .controlCharacter => "Invalid control character at"
  | .escape => "Invalid \\escape"
  | .unicodeEscape => "Invalid \\uXXXX escape"

def Fault.message (fault : Fault) : Text :=
  fault.reason.message ++ ": line " ++ Text.ofNat fault.line ++ " column " ++
    Text.ofNat fault.column ++ " (char " ++ Text.ofNat fault.position ++ ")"

/-- The wording shared by every reader that limits the digits of an integer. -/
def digitLimitMessage (count : Nat) : Text :=
  "Exceeds the limit (" ++ Text.ofNat Value.digitLimit ++
    " digits) for integer string conversion: value has " ++ Text.ofNat count ++
    " digits; use sys.set_int_max_str_digits() to increase the limit"

def Nest.name : Nest → Text
  | .array => "array"
  | .object => "object"

def Failure.message : Failure → Text
  | .grammar fault => fault.message
  | .tooManyDigits count => digitLimitMessage count
  | .tooDeep nest =>
    "maximum recursion depth exceeded while decoding a JSON " ++ nest.name ++
      " from a unicode string"

end ApiClient.Json
