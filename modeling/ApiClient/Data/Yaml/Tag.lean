import ApiClient.Data.Yaml.Cursor
import ApiClient.Text.CodePoint
import ApiClient.Text.Split

/-! Tags of nodes. A scalar without a tag has the one that its text calls for, if it is plain. -/

namespace ApiClient.Yaml

inductive Tag where
  | null
  | bool
  | int
  | float
  | binary
  | timestamp
  | omap
  | pairs
  | set
  | str
  | seq
  | map
  | merge
  | value
  | other
  deriving DecidableEq, Repr

/-- What stands before the names of the tags that every text may use. -/
def tagLead : String := "tag:yaml.org,2002:"

def Tag.named : List (String × Tag) := [
  ("null", .null), ("bool", .bool), ("int", .int), ("float", .float), ("binary", .binary),
  ("timestamp", .timestamp), ("omap", .omap), ("pairs", .pairs), ("set", .set), ("str", .str),
  ("seq", .seq), ("map", .map), ("merge", .merge), ("value", .value)]

def Tag.ofString (text : String) : Tag :=
  match Tag.named.find? fun named => tagLead ++ named.1 = text with
  | some (_, tag) => tag
  | none => .other

/-! ## Words -/

def nullWords : List String := ["", "~", "null", "Null", "NULL"]

def trueWords : List String := ["yes", "Yes", "YES", "true", "True", "TRUE", "on", "On", "ON"]

def falseWords : List String := ["no", "No", "NO", "false", "False", "FALSE", "off", "Off", "OFF"]

/-! ## Numbers -/

def isSign (c : Char) : Bool :=
  c == '+' || c == '-'

def withoutSign : List Char → List Char
  | c :: rest => if isSign c then rest else c :: rest
  | [] => []

def isDigitOrLine (c : Char) : Bool :=
  isAsciiDigit c || c == '_'

/-- At least one character, all of one class. -/
def isRunOf (among : Char → Bool) (text : List Char) : Bool :=
  !text.isEmpty && text.all among

def isOctalOrLine (c : Char) : Bool :=
  ('0' ≤ c && c ≤ '7') || c == '_'

def isHexOrLine (c : Char) : Bool :=
  isDigitOrLine c || ('a' ≤ c && c ≤ 'f') || ('A' ≤ c && c ≤ 'F')

/-- A part of a number to base sixty after its first part. -/
def isSixty : List Char → Bool
  | [d] => isAsciiDigit d
  | [t, d] => '0' ≤ t && t ≤ '5' && isAsciiDigit d
  | _ => false

/-- Digits and lines, of which the first is a digit. -/
def isDigits : List Char → Bool
  | [] => false
  | c :: rest => isAsciiDigit c && rest.all isDigitOrLine

def isInteger (text : List Char) : Bool :=
  match withoutSign text with
  | [] => false
  | ['0'] => true
  | '0' :: 'b' :: digits => isRunOf (fun c => c == '0' || c == '1' || c == '_') digits
  | '0' :: 'x' :: digits => isRunOf isHexOrLine digits
  | '0' :: digits => digits.all isOctalOrLine
  | digits =>
    match Text.split (· == ':') digits with
    | [] => false
    | first :: parts => isDigits first && parts.all isSixty

/-- An exponent has a mark, a sign and digits. It can be left out. -/
def isExponent : List Char → Bool
  | [] => true
  | mark :: sign :: digits =>
    (mark == 'e' || mark == 'E') && isSign sign && isRunOf isAsciiDigit digits
  | _ => false

/-- Digits, a point, digits that can be left out, and an exponent. -/
def isDecimal (text : List Char) : Bool :=
  let whole := text.takeWhile isDigitOrLine
  match text.drop whole.length with
  | '.' :: rest => isDigits whole && isExponent (rest.dropWhile isDigitOrLine)
  | _ => false

/-- A point and digits, with an exponent. -/
def isFraction : List Char → Bool
  | '.' :: rest =>
    isDigits (rest.takeWhile isDigitOrLine) && isExponent (rest.dropWhile isDigitOrLine)
  | _ => false

/-- A number to base sixty with a point after its last part. -/
def isSixtyReal (text : List Char) : Bool :=
  let whole := text.takeWhile (· != '.')
  match text.drop whole.length, Text.split (· == ':') whole with
  | '.' :: rest, first :: part :: parts =>
    rest.all isDigitOrLine && isDigits first && (part :: parts).all isSixty
  | _, _ => false

def infinityWords : List String := [".inf", ".Inf", ".INF"]

def nanWords : List String := [".nan", ".NaN", ".NAN"]

def isReal (text : List Char) : Bool :=
  let size := withoutSign text
  isDecimal size || isFraction text || isSixtyReal size ||
    infinityWords.contains (String.ofList size) || nanWords.contains (String.ofList text)

/-! ## Moments -/

/-- A leading number of a length between two bounds, as long as it can be. -/
def digits? (least greatest : Nat) (text : List Char) : Option (List Char × List Char) :=
  let digits := (text.take greatest).takeWhile isAsciiDigit
  if digits.length < least then none else some (digits, text.drop digits.length)

def expect (c : Char) : List Char → Option (List Char)
  | d :: rest => if c = d then some rest else none
  | [] => none

/-- The written form of a moment, part by part. -/
structure MomentText where
  year : List Char
  month : List Char
  day : List Char
  clock : Option (List Char × List Char × List Char)
  fraction : List Char
  zone : Option (Option (Bool × List Char × List Char))
  deriving DecidableEq, Repr

/-- The zone of a moment: universal time by its letter, or a sign with hours and minutes. -/
def zoneText? (text : List Char) : Option (Option (Bool × List Char × List Char)) :=
  match text with
  | ['Z'] => some none
  | sign :: rest =>
    if isSign sign then do
      let ⟨hour, rest⟩ ← digits? 1 2 rest
      if rest.isEmpty then return some (sign == '-', hour, [])
      else
        let ⟨minute, rest⟩ ← digits? 2 2 (← expect ':' rest)
        if rest.isEmpty then return some (sign == '-', hour, minute) else none
    else none
  | [] => none

/-- What separates a day from a time: a letter, or blanks. -/
def clockSeparator? : List Char → Option (List Char)
  | c :: rest =>
    if c = 'T' ∨ c = 't' then some rest
    else if isBlank c then some (rest.dropWhile isBlank)
    else none
  | [] => none

def momentText? (text : List Char) : Option MomentText := do
  let ⟨year, rest⟩ ← digits? 4 4 text
  let ⟨month, rest⟩ ← digits? 1 2 (← expect '-' rest)
  let ⟨day, rest⟩ ← digits? 1 2 (← expect '-' rest)
  if rest.isEmpty then return ⟨year, month, day, none, [], none⟩
  else
    let ⟨hour, rest⟩ ← digits? 1 2 (← clockSeparator? rest)
    let ⟨minute, rest⟩ ← digits? 2 2 (← expect ':' rest)
    let ⟨second, rest⟩ ← digits? 2 2 (← expect ':' rest)
    let ⟨fraction, rest⟩ : List Char × List Char :=
      match rest with
      | '.' :: rest => (rest.takeWhile isAsciiDigit, rest.dropWhile isAsciiDigit)
      | rest => ([], rest)
    let clock := some (hour, minute, second)
    if rest.isEmpty then return ⟨year, month, day, clock, fraction, none⟩
    else
      let zone ← zoneText? (rest.dropWhile isBlank)
      return ⟨year, month, day, clock, fraction, some zone⟩

/-- A plain text is a moment if it has a time, or if its month and day have two digits each. -/
def isMoment (text : List Char) : Bool :=
  match momentText? text with
  | none => false
  | some moment => moment.clock.isSome || (moment.month.length == 2 && moment.day.length == 2)

/-! ## Plain scalars -/

/-- A text without the line feed that may end it. -/
def withoutFinalBreak : List Char → List Char
  | [] => []
  | ['\n'] => []
  | c :: rest => c :: withoutFinalBreak rest

/-- The tag for which a word calls, if it is of any tag but the one for texts. -/
def wordTag? (characters : List Char) : Option Tag :=
  let word := String.ofList characters
  if nullWords.contains word then some .null
  else if trueWords.contains word || falseWords.contains word then some .bool
  else if isReal characters then some .float
  else if isInteger characters then some .int
  else if isMoment characters then some .timestamp
  else if word = "<<" then some .merge
  else if word = "=" then some .value
  else if word = "!" ∨ word = "&" ∨ word = "*" then some .other
  else none

/-- The tag for which the text of a plain scalar calls. A line feed at its end does not count, but
does not make it empty either. -/
def plainTag (text : Text) : Tag :=
  match text.characters? with
  | none => .str
  | some characters =>
    let word := withoutFinalBreak characters
    if word.isEmpty && !characters.isEmpty then .str else (wordTag? word).getD .str

end ApiClient.Yaml
