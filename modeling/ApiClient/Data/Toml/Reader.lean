import ApiClient.Data.Toml.Scalar
import ApiClient.Data.Toml.Table
import ApiClient.Text.Split

/-! Reading TOML. Statements are taken one after the other; each one fills the tables that those
before it have made. -/

namespace ApiClient.Toml

abbrev Reading := StateT (List Char) (Except Fault)

namespace Reading

def skip (among : Char → Bool) : Reading Unit :=
  modify (·.dropWhile among)

def accept (sought : List Char) : Reading Bool := do
  let text ← get
  if sought.isPrefixOf text then
    set (text.drop sought.length)
    return true
  else return false

def demand (sought : List Char) : Reading Unit := do
  if !(← accept sought) then throw .grammar

end Reading

open Reading

/-- A comment, if one comes next, to the end of its line. -/
def comment : Reading Unit := do
  if ← accept ['#'] then
    let text ← get
    let line := text.takeWhile (· != '\n')
    if line.any isControl then throw .grammar
    set (text.drop line.length)

/-- Blanks, breaks and comments between the values of a list. -/
def listBlanks : (fuel : Nat) → Reading Unit
  | 0 => return ()
  | fuel + 1 => do
    skip isBlankOrBreak
    if (← get).head? = some '#' then
      comment
      listBlanks fuel

/-! ## Keys -/

def isBareKeyPart (c : Char) : Bool :=
  isDigit c || ('A' ≤ c && c ≤ 'Z') || ('a' ≤ c && c ≤ 'z') || c == '-' || c == '_'

def keyPart : Reading String := do
  let text ← get
  let bare := text.takeWhile isBareKeyPart
  if !bare.isEmpty then
    set (text.drop bare.length)
    return String.ofList bare
  else
    let quote := text.head?
    if quote ≠ some '"' ∧ quote ≠ some '\'' then throw .grammar
    else
      let ⟨part, rest⟩ ← liftExcept (keyString text)
      set rest
      return part
where
  /-- A quoted key has one line. -/
  keyString (text : List Char) : Except Fault (String × List Char) := do
    let ⟨characters, rest⟩ ←
      if text.head? = some '"' then basicString false (text.length + 1) [] text.tail
      else literalString false text.tail
    return (String.ofList characters, rest)

def key : (fuel : Nat) → Reading Key
  | 0 => throw .grammar
  | fuel + 1 => do
    let part ← keyPart
    skip isBlank
    if ← accept ['.'] then
      skip isBlank
      return part :: (← key fuel)
    else return [part]

/-! ## Values -/

/-- A value without parts: a day or a time, a number, or the name of one. -/
def plainValue : Reading Value := do
  let text ← get
  let take := fun (outcome : Except Fault Value) (rest : List Char) => do
    set rest
    (liftExcept outcome : Reading Value)
  match day? text, clock? text, markedInteger? text, decimal? text with
  | some (outcome, rest), _, _, _ => take outcome rest
  | none, some (clock, rest), _, _ => take (.ok (.clock clock)) rest
  | none, none, some (value, rest), _ => take (.ok value) rest
  | none, none, none, some (outcome, rest) => take outcome rest
  | none, none, none, none =>
    match namedNumbers.find? fun named => named.1.isPrefixOf text with
    | some (name, value) => take (.ok (.real value)) (text.drop name.length)
    | none => throw .grammar

/-- An inline table as it grows: its entries, and the keys of values written in place. -/
structure InlineTable where
  entries : List (Value × Value) := []
  marks : Marks := {}

def InlineTable.add (table : InlineTable) (key : Key) (value : Value) : Option InlineTable := do
  if table.marks.isFrozen key then none
  else
    let entries ←
      updateUnder false (addEntry (key.getLast?.getD "") value) key.dropLast table.entries
    return { entries, marks := if isCollection value then table.marks.freeze key else table.marks }

mutual

def value : (fuel : Nat) → Reading Value
  | 0 => throw .grammar
  | fuel + 1 => do
    let text ← get
    match text.head? with
    | some '"' | some '\'' =>
      let ⟨value, rest⟩ ← liftExcept (string text)
      set rest
      return .text value
    | some '[' =>
      set text.tail
      listBlanks (text.length + 1)
      if ← accept [']'] then return .list []
      else return .list (← listItems fuel)
    | some '{' =>
      set text.tail
      skip isBlank
      if ← accept ['}'] then return .map []
      else return .map (← inlineTable fuel {})
    | _ =>
      if ← accept "true".toList then return .bool true
      else if ← accept "false".toList then return .bool false
      else plainValue

/-- The values of a list from the next one to the end. A comma may follow the last one. -/
def listItems : (fuel : Nat) → Reading (List Value)
  | 0 => throw .grammar
  | fuel + 1 => do
    let item ← value fuel
    listBlanks ((← get).length + 1)
    if ← accept [']'] then return [item]
    else
      demand [',']
      listBlanks ((← get).length + 1)
      if ← accept [']'] then return [item]
      else return item :: (← listItems fuel)

def inlineTable : (fuel : Nat) → InlineTable → Reading (List (Value × Value))
  | 0, _ => throw .grammar
  | fuel + 1, table => do
    let ⟨key, value⟩ ← pair fuel
    match table.add key value with
    | none => throw .grammar
    | some table =>
      skip isBlank
      if ← accept ['}'] then return table.entries
      else
        demand [',']
        skip isBlank
        inlineTable fuel table

/-- A key, an equals sign and a value. -/
def pair : (fuel : Nat) → Reading (Key × Value)
  | 0 => throw .grammar
  | fuel + 1 => do
    let key ← key ((← get).length + 1)
    demand ['=']
    skip isBlank
    return (key, ← value fuel)

end

/-! ## Statements -/

def fill (filling : Option Filling) : Reading Filling :=
  match filling with
  | some filling => return filling
  | none => throw .grammar

/-- The heading of a table, or of one more table in a list. -/
def headingStatement (filling : Filling) : Reading Filling := do
  let fuel := (← get).length + 1
  let filling := filling.finishPending
  if ← accept ['[', '['] then
    skip isBlank
    let filling ← fill (filling.appendTable (← key fuel))
    demand [']', ']']
    return filling
  else
    demand ['[']
    skip isBlank
    let filling ← fill (filling.declareTable (← key fuel))
    demand [']']
    return filling

/-- One statement: an entry, a heading, or nothing. -/
def statement (filling : Filling) : Reading Filling := do
  match (← get).head? with
  | none | some '#' | some '\n' => return filling
  | some '[' => headingStatement filling
  | some c =>
    if isBareKeyPart c || c == '"' || c == '\'' then
      let ⟨key, value⟩ ← pair (2 * (← get).length + 2)
      fill (filling.assign key value)
    else throw .grammar

/-- Every statement has a line, or several, of its own. -/
def statements : (fuel : Nat) → Filling → Reading Filling
  | 0, filling => return filling
  | fuel + 1, filling => do
    skip isBlank
    let filling ← statement filling
    skip isBlank
    comment
    if (← get).isEmpty then return filling
    else
      demand ['\n']
      statements fuel filling

/-- The root table of a text. -/
def read (text : List Char) : Except Fault Value := do
  let characters := Text.replaceAll '\r' ['\n'] ['\n'] text
  let ⟨filling, _⟩ ← (statements (characters.length + 1) {}).run characters
  return .map filling.entries

end ApiClient.Toml
