import ApiClient.Data.Json.Reader

/-! The written forms of TOML scalars. Each reader takes characters off the front of a text and
gives what they stand for with the rest of the text. -/

namespace ApiClient.Toml

/-- A text that breaks the grammar, or an integer with too many digits. -/
inductive Fault where
  | grammar
  | tooManyDigits (count : Nat)
  deriving DecidableEq, Repr

/-! ## Characters -/

def isBlank (c : Char) : Bool :=
  c == ' ' || c == '\t'

def isBlankOrBreak (c : Char) : Bool :=
  isBlank c || c == '\n'

/-- Characters that may not stand in comments and in strings of one line. -/
def isControl (c : Char) : Bool :=
  (c.toNat < 0x20 || c.toNat == 0x7f) && c != '\t'

/-- Characters that may not stand in a string. -/
def isIllegal (isMultiline : Bool) (c : Char) : Bool :=
  isControl c && !(isMultiline && c == '\n')

def isDigit (c : Char) : Bool :=
  '0' ≤ c && c ≤ '9'

/-! ## Strings -/

/-- The number of hexadecimal digits, if it is the number of a character. -/
def hexCharacter (width : Nat) (text : List Char) : Except Fault (Char × List Char) :=
  let digits := text.take width
  match digits.foldlM (fun value c => (Text.Numeral.digitIn? 16 c).map (16 * value + ·)) 0 with
  | none => .error .grammar
  | some code =>
    if digits.length < width ∨ code > 0x10ffff ∨ (0xd800 ≤ code ∧ code < 0xe000) then
      .error .grammar
    else .ok (Char.ofNat code, text.drop width)

def escaped? : Char → Option Char
  | 'b' => some '\x08'
  | 't' => some '\t'
  | 'n' => some '\n'
  | 'f' => some '\x0c'
  | 'r' => some '\r'
  | '"' => some '"'
  | '\\' => some '\\'
  | _ => none

/-- A backslash at the end of a line takes all blanks and breaks after it away. -/
def lineContinuation (text : List Char) : Except Fault (List Char) :=
  match text.dropWhile isBlank with
  | [] => .ok []
  | '\n' :: rest => .ok (rest.dropWhile isBlankOrBreak)
  | _ => .error .grammar

/-- What follows a backslash. -/
def escape (isMultiline : Bool) (text : List Char) : Except Fault (List Char × List Char) :=
  match text with
  | [] => .error .grammar
  | 'u' :: rest => do
    let ⟨c, rest⟩ ← hexCharacter 4 rest
    return ([c], rest)
  | 'U' :: rest => do
    let ⟨c, rest⟩ ← hexCharacter 8 rest
    return ([c], rest)
  | c :: rest =>
    if isMultiline && isBlankOrBreak c then do
      return ([], ← lineContinuation (c :: rest))
    else
      match escaped? c with
      | some c => .ok ([c], rest)
      | none => .error .grammar

/-- A string after its opening quotes. Three quotes end one that can have several lines. -/
def basicString (isMultiline : Bool) :
    (fuel : Nat) → List Char → List Char → Except Fault (List Char × List Char)
  | 0, _, _ => .error .grammar
  | fuel + 1, done, text =>
    match text with
    | [] => .error .grammar
    | '\\' :: rest => do
      let ⟨characters, rest⟩ ← escape isMultiline rest
      basicString isMultiline fuel (done ++ characters) rest
    | '"' :: rest =>
      if !isMultiline then .ok (done, rest)
      else
        match rest with
        | '"' :: '"' :: rest => .ok (done, rest)
        | rest => basicString isMultiline fuel (done ++ ['"']) rest
    | c :: rest =>
      if isIllegal isMultiline c then .error .grammar
      else basicString isMultiline fuel (done ++ [c]) rest

/-- A string without escapes, after its opening quotes. -/
def literalString (isMultiline : Bool) : List Char → Except Fault (List Char × List Char)
  | [] => .error .grammar
  | c :: rest =>
    if c = '\'' ∧ (!isMultiline ∨ rest.take 2 = ['\'', '\'']) then
      .ok ([], if isMultiline then rest.drop 2 else rest)
    else if isIllegal isMultiline c then .error .grammar
    else do
      let ⟨characters, rest⟩ ← literalString isMultiline rest
      return (c :: characters, rest)

/-- Up to two quotes right before the three closing ones belong to the string. -/
def closingQuotes (quote : Char) (text : List Char) : List Char × List Char :=
  let quotes := (text.take 2).takeWhile (· == quote)
  (quotes, text.drop quotes.length)

def string (text : List Char) : Except Fault (String × List Char) := do
  let withoutBreak := fun (text : List Char) => if text.head? = some '\n' then text.tail else text
  match text with
  | '"' :: '"' :: '"' :: rest =>
    let ⟨characters, rest⟩ ← basicString true (text.length + 1) [] (withoutBreak rest)
    let ⟨quotes, rest⟩ := closingQuotes '"' rest
    return (String.ofList (characters ++ quotes), rest)
  | '\'' :: '\'' :: '\'' :: rest =>
    let ⟨characters, rest⟩ ← literalString true (withoutBreak rest)
    let ⟨quotes, rest⟩ := closingQuotes '\'' rest
    return (String.ofList (characters ++ quotes), rest)
  | '"' :: rest =>
    let ⟨characters, rest⟩ ← basicString false (text.length + 1) [] rest
    return (String.ofList characters, rest)
  | '\'' :: rest =>
    let ⟨characters, rest⟩ ← literalString false rest
    return (String.ofList characters, rest)
  | _ => throw .grammar

/-! ## Numbers -/

/-- Digits with single lines between them, without the lines. -/
def digitRun (isDigit : Char → Bool) : List Char → List Char × List Char
  | '_' :: d :: rest =>
    if isDigit d then
      let ⟨digits, rest⟩ := digitRun isDigit rest
      (d :: digits, rest)
    else ([], '_' :: d :: rest)
  | d :: rest =>
    if isDigit d then
      let ⟨digits, rest⟩ := digitRun isDigit rest
      (d :: digits, rest)
    else ([], d :: rest)
  | [] => ([], [])

/-- At least one digit, and no line before it. -/
def digits? (isDigit : Char → Bool) (text : List Char) : Option (List Char × List Char) :=
  match text with
  | d :: _ => if isDigit d then some (digitRun isDigit text) else none
  | [] => none

/-- The base that a character after a zero stands for. -/
def baseOf? : Char → Option Nat
  | 'x' => some 16
  | 'o' => some 8
  | 'b' => some 2
  | _ => none

def isDigitIn (base : Nat) (c : Char) : Bool :=
  match Text.Numeral.digitIn? 16 c with
  | some value => value < base
  | none => false

def numberIn (base : Nat) (digits : List Char) : Nat :=
  digits.foldl (fun value c => base * value + (Text.Numeral.digitIn? 16 c).getD 0) 0

/-- A number with a mark for its base. -/
def markedInteger? (text : List Char) : Option (Value × List Char) := do
  match text with
  | '0' :: mark :: rest =>
    let base ← baseOf? mark
    let ⟨digits, rest⟩ ← digits? (isDigitIn base) rest
    return (.int (numberIn base digits), rest)
  | _ => none

/-- A point with digits, if they come next. -/
def fraction (text : List Char) : List Char × List Char :=
  match text with
  | '.' :: rest => (digits? isDigit rest).getD ([], text)
  | _ => ([], text)

/-- The value of an exponent, if one comes next. -/
def exponent? (text : List Char) : Option (Int × List Char) := do
  match text with
  | mark :: rest =>
    if mark ≠ 'e' ∧ mark ≠ 'E' then none
    else
      let ⟨isNegative, rest⟩ : Bool × List Char :=
        match rest with
        | '-' :: rest => (true, rest)
        | '+' :: rest => (false, rest)
        | rest => (false, rest)
      let ⟨digits, rest⟩ ← digits? isDigit rest
      let size : Int := numberIn 10 digits
      return (if isNegative then -size else size, rest)
  | [] => none

/-- An integer or a real number in base ten. A zero is not followed by further digits. -/
def decimal? (text : List Char) : Option (Except Fault Value × List Char) := do
  let ⟨isNegative, size⟩ : Bool × List Char :=
    match text with
    | '-' :: rest => (true, rest)
    | '+' :: rest => (false, rest)
    | rest => (false, rest)
  let ⟨whole, rest⟩ ←
    match size with
    | '0' :: rest => some (['0'], rest)
    | size => digits? isDigit size
  let ⟨fraction, rest⟩ := fraction rest
  match fraction, exponent? rest with
  | [], none =>
    let number : Int := numberIn 10 whole
    let value :=
      if whole.length > Value.digitLimit then .error (.tooManyDigits whole.length)
      else .ok (.int (if isNegative then -number else number))
    return (value, rest)
  | fraction, exponent =>
    let ⟨power, rest⟩ := exponent.getD (0, rest)
    let value :=
      Binary64.ofDecimal isNegative (numberIn 10 (whole ++ fraction)) (power - fraction.length)
    return (.ok (.real value), rest)

/-- Numbers that have no digits. -/
def namedNumbers : List (List Char × Binary64) := [
  ("inf".toList, .infinite false), ("nan".toList, .notANumber), ("-inf".toList, .infinite true),
  ("+inf".toList, .infinite false), ("-nan".toList, .notANumber), ("+nan".toList, .notANumber)]

/-! ## Days and times -/

/-- A number of exactly so many digits between two bounds. -/
def numberBetween? (width least greatest : Nat) (text : List Char) : Option (Nat × List Char) :=
  let digits := text.take width
  let number := numberIn 10 digits
  if digits.length = width ∧ digits.all isDigit ∧ least ≤ number ∧ number ≤ greatest then
    some (number, text.drop width)
  else none

def expect (c : Char) : List Char → Option (List Char)
  | d :: rest => if c = d then some rest else none
  | [] => none

/-- Digits after the sixth take no part. -/
def clock? (text : List Char) : Option (Clock × List Char) := do
  let ⟨hour, rest⟩ ← numberBetween? 2 0 23 text
  let ⟨minute, rest⟩ ← numberBetween? 2 0 59 (← expect ':' rest)
  let ⟨second, rest⟩ ← numberBetween? 2 0 59 (← expect ':' rest)
  let ⟨fraction, rest⟩ : List Char × List Char :=
    match rest with
    | '.' :: more =>
      if (more.head?.map isDigit).getD false then
        (more.takeWhile isDigit, more.dropWhile isDigit)
      else ([], rest)
    | _ => ([], rest)
  let microsecond := numberIn 10 ((fraction ++ List.replicate 6 '0').take 6)
  return (⟨hour, minute, second, microsecond⟩, rest)

/-- An offset from universal time, if one comes next. -/
def offset? (text : List Char) : Option (Int × List Char) := do
  match text with
  | [] => none
  | c :: rest =>
    if c = 'Z' ∨ c = 'z' then return (0, rest)
    else if c = '+' ∨ c = '-' then
      let ⟨hour, rest⟩ ← numberBetween? 2 0 23 rest
      let ⟨minute, rest⟩ ← numberBetween? 2 0 59 (← expect ':' rest)
      let seconds : Int := hour * 3600 + minute * 60
      return (if c = '-' then -seconds else seconds, rest)
    else none

def isClockSeparator (c : Char) : Bool :=
  c == 'T' || c == 't' || c == ' '

/-- A time after the day before it, if one comes next. -/
def clockAfterDay? : List Char → Option (Clock × List Char)
  | c :: rest => if isClockSeparator c then clock? rest else none
  | [] => none

/-- A day, or a moment on it. The day must be one of the calendar. -/
def day? (text : List Char) : Option (Except Fault Value × List Char) := do
  let ⟨year, rest⟩ ← numberBetween? 4 0 9999 text
  let ⟨month, rest⟩ ← numberBetween? 2 1 12 (← expect '-' rest)
  let ⟨day, rest⟩ ← numberBetween? 2 1 31 (← expect '-' rest)
  let checked := (Date.checked year month day).mapError fun _ => Fault.grammar
  match clockAfterDay? rest with
  | none => return (Value.date <$> checked, rest)
  | some (clock, rest) =>
    let ⟨offset, rest⟩ : Option Int × List Char :=
      match offset? rest with
      | some (offset, rest) => (some offset, rest)
      | none => (none, rest)
    let moment := fun date => Value.moment
      ⟨date, clock.hour, clock.minute, clock.second, clock.microsecond, offset⟩
    return (moment <$> checked, rest)

end ApiClient.Toml
