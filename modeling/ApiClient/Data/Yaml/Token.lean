import ApiClient.Data.Yaml.Scalar

/-! The tokens of a YAML text. Indentation shows in the tokens as starts and ends of collections. A
key need not be marked: whether a token was one is known when the colon after it is found, and the
marks are then put in front of it. -/

namespace ApiClient.Yaml

inductive Directive where
  | version (major minor : Nat)
  | tag (handle lead : String)
  | other
  deriving DecidableEq, Repr

inductive Token where
  | directive (directive : Directive)
  | documentStart
  | documentEnd
  | textEnd
  | blockListStart
  | blockMapStart
  | blockEnd
  | flowListStart
  | flowListEnd
  | flowMapStart
  | flowMapEnd
  | entry
  | comma
  | key
  | value
  | alias (name : String)
  | anchor (name : String)
  | tag (handle : Option String) (suffix : String)
  | scalar (text : Text) (isPlain : Bool)
  deriving DecidableEq, Repr

/-! ## Names, tags and directives -/

/-- A name of at least one character. -/
def name (cursor : Cursor) : Except Fault (String × Cursor) :=
  let characters := cursor.run isNamePart
  if characters.isEmpty then .error .token
  else .ok (String.ofList characters, cursor.forward characters.length)

/-- The name of an anchor, after its mark, and the character after it. -/
def anchorName (cursor : Cursor) : Except Fault (String × Cursor) := do
  let ⟨name, cursor⟩ ← name cursor
  if endsWord cursor.peek || "?:,]\x7d%@\x60".toList.contains cursor.peek then return (name, cursor)
  else throw .token

def isTagPart (c : Char) : Bool :=
  isNamePart c || ";/?:@&=+$,.!~*'()[]".toList.contains c

/-- The octets of successive percent escapes. -/
def percentOctets : (fuel : Nat) → List UInt8 → Cursor → Except Fault (List UInt8 × Cursor)
  | 0, _, _ => .error .token
  | fuel + 1, done, cursor =>
    if cursor.peek == '%' then
      match hexNumber? cursor.step 2 with
      | none => .error .token
      | some octet => percentOctets fuel (done ++ [UInt8.ofNat octet]) (cursor.forward 3)
    else .ok (done, cursor)

def tagText : (fuel : Nat) → List Char → Cursor → Except Fault (List Char × Cursor)
  | 0, _, _ => .error .token
  | fuel + 1, done, cursor => do
    if cursor.peek == '%' then
      let ⟨octets, after⟩ ← percentOctets fuel [] cursor
      match Text.Utf8.decode octets with
      | .error _ => throw .token
      | .ok text => tagText fuel (done ++ text) after
    else
      let run := cursor.run isTagPart
      if run.isEmpty then
        if done.isEmpty then throw .token else return (done, cursor)
      else tagText fuel (done ++ run) (cursor.forward run.length)

def tagUri (cursor : Cursor) : Except Fault (String × Cursor) := do
  let ⟨text, cursor⟩ ← tagText (2 * cursor.left + 2) [] cursor
  return (String.ofList text, cursor)

/-- An exclamation mark alone, or a name between two of them. -/
def tagHandle (cursor : Cursor) : Except Fault (String × Cursor) :=
  if cursor.peek != '!' then .error .token
  else
    let name := cursor.step.run isNamePart
    let after := cursor.step.forward name.length
    if name.isEmpty && after.peek == ' ' then .ok ("!", after)
    else if after.peek == '!' then .ok (String.ofList ('!' :: name ++ ['!']), after.step)
    else .error .token

/-- Whether a second exclamation mark comes before the word ends. -/
def hasHandle (cursor : Cursor) : Bool :=
  (cursor.step.rest.takeWhile (!endsLineOrSpace ·)).contains '!'

def tagToken (cursor : Cursor) : Except Fault (Token × Cursor) := do
  let ⟨token, after⟩ ←
    if cursor.peek 1 == '<' then do
      let ⟨suffix, after⟩ ← tagUri (cursor.forward 2)
      if after.peek != '>' then throw .token
      pure (Token.tag none suffix, after.step)
    else if endsWord (cursor.peek 1) then
      pure (Token.tag none "!", cursor.step)
    else do
      let ⟨handle, after⟩ ← if hasHandle cursor then tagHandle cursor else pure ("!", cursor.step)
      let ⟨suffix, after⟩ ← tagUri after
      pure (Token.tag (some handle) suffix, after)
  if endsLineOrSpace after.peek then return (token, after) else throw .token

/-- A number in a version. -/
def versionNumber (cursor : Cursor) : Except Fault (Nat × Cursor) :=
  let digits := cursor.run isAsciiDigit
  if digits.isEmpty then .error .token
  else .ok (Text.Numeral.natural digits, cursor.forward digits.length)

def versionDirective (cursor : Cursor) : Except Fault (Directive × Cursor) := do
  let ⟨major, cursor⟩ ← versionNumber cursor.skipSpaces
  if cursor.peek != '.' then throw .token
  let ⟨minor, cursor⟩ ← versionNumber cursor.step
  if endsLineOrSpace cursor.peek then return (.version major minor, cursor) else throw .token

def tagDirective (cursor : Cursor) : Except Fault (Directive × Cursor) := do
  let ⟨handle, cursor⟩ ← tagHandle cursor.skipSpaces
  if cursor.peek != ' ' then throw .token
  let ⟨lead, cursor⟩ ← tagUri cursor.skipSpaces
  if endsLineOrSpace cursor.peek then return (.tag handle lead, cursor) else throw .token

/-- A directive after its mark, to the end of its line. -/
def directiveToken (cursor : Cursor) : Except Fault (Token × Cursor) := do
  let ⟨name, cursor⟩ ← name cursor
  if !endsLineOrSpace cursor.peek then throw .token
  let ⟨directive, cursor⟩ ←
    if name = "YAML" then versionDirective cursor
    else if name = "TAG" then tagDirective cursor
    else pure (.other, cursor.skipLine)
  return (.directive directive, ← skipComment cursor)

/-! ## Where keys can be -/

/-- A token that may turn out to be a key: its number among the tokens, and where it stands. Where a
block needs a key, the token must be one. -/
structure KeyPlace where
  number : Nat
  isRequired : Bool
  index : Nat
  line : Nat
  column : Nat
  deriving DecidableEq, Repr

/-- The tokens so far, last first, and what decides about the next one. -/
structure Tokenizer where
  cursor : Cursor
  done : List Token := []
  count : Nat := 0
  flowLevel : Int := 0
  indent : Int := -1
  indents : List Int := []
  allowsKey : Bool := true
  keys : List (Int × KeyPlace) := []
  isFinished : Bool := false

namespace Tokenizer

def inFlow (state : Tokenizer) : Bool :=
  state.flowLevel != 0

def push (state : Tokenizer) (token : Token) : Tokenizer :=
  { state with done := token :: state.done, count := state.count + 1 }

/-- Put a token in front of the one of a given number. -/
def insert (state : Tokenizer) (number : Nat) (token : Token) : Tokenizer :=
  { state with
    done := state.done.insertIdx (state.count - number) token
    count := state.count + 1 }

def moved (state : Tokenizer) (cursor : Cursor) : Tokenizer :=
  { state with cursor }

def forward (state : Tokenizer) (distance : Nat) : Tokenizer :=
  state.moved (state.cursor.forward distance)

def withKeys (state : Tokenizer) (allowsKey : Bool) : Tokenizer :=
  { state with allowsKey }

/-- A key stands on one line, and not too far from its colon. -/
def greatestKeyDistance : Nat := 1024

def isStale (cursor : Cursor) (place : KeyPlace) : Bool :=
  place.line != cursor.line || cursor.index - place.index > greatestKeyDistance

/-- Give up the places that have become too distant. -/
def dropStaleKeys (state : Tokenizer) : Except Fault Tokenizer :=
  let stale := fun (key : Int × KeyPlace) => isStale state.cursor key.2
  if state.keys.any fun key => stale key && key.2.isRequired then .error .token
  else .ok { state with keys := state.keys.filter fun key => !stale key }

def keyHere? (state : Tokenizer) : Option KeyPlace :=
  (state.keys.find? (·.1 == state.flowLevel)).map (·.2)

/-- Give up the place at this level of brackets. -/
def dropKey (state : Tokenizer) : Except Fault Tokenizer :=
  if (state.keyHere?.map (·.isRequired)).getD false then .error .token
  else .ok { state with keys := state.keys.filter (·.1 != state.flowLevel) }

/-- The next token may be a key. -/
def saveKey (state : Tokenizer) : Except Fault Tokenizer := do
  if state.allowsKey then
    let place : KeyPlace := {
      number := state.count
      isRequired := !state.inFlow && state.indent == (state.cursor.column : Int)
      index := state.cursor.index
      line := state.cursor.line
      column := state.cursor.column }
    let state ← state.dropKey
    return { state with keys := state.keys ++ [(state.flowLevel, place)] }
  else return state

/-! ## Indentation -/

def unwindTo (column : Int) : List Int → Tokenizer → Tokenizer
  | [], state => state
  | indent :: indents, state =>
    if state.indent > column then
      unwindTo column indents ({ state with indent, indents }.push .blockEnd)
    else state

/-- End the collections that are indented further than a column. -/
def unwind (state : Tokenizer) (column : Int) : Tokenizer :=
  if state.inFlow then state else unwindTo column state.indents state

def isIndentation (state : Tokenizer) (column : Nat) : Bool :=
  state.indent < (column : Int)

def withIndent (state : Tokenizer) (column : Nat) : Tokenizer :=
  { state with indents := state.indent :: state.indents, indent := column }

/-- Start a collection if a column is indented further than the last one. -/
def openBlock (state : Tokenizer) (token : Token) : Tokenizer :=
  let column := state.cursor.column
  if state.isIndentation column then (state.withIndent column).push token else state

/-! ## Blanks between tokens -/

/-- Skip blanks, comments and breaks. After a break, outside of brackets, a key may follow. -/
def skipToToken : (fuel : Nat) → Tokenizer → Tokenizer
  | 0, state => state
  | fuel + 1, state =>
    let cursor := state.cursor.skipSpaces
    let cursor := if cursor.peek == '#' then cursor.skipLine else cursor
    match cursor.lineBreak? with
    | none => state.moved cursor
    | some (_, after) =>
      skipToToken fuel ((state.moved after).withKeys (state.allowsKey || !state.inFlow))

def skipBlanks (state : Tokenizer) : Tokenizer :=
  let cursor := state.cursor
  let cursor := if cursor.index == 0 && cursor.peek == '\ufeff' then cursor.step else cursor
  skipToToken (cursor.left + 1) (state.moved cursor)

/-! ## Tokens -/

/-- End all blocks before a token that stands outside of them. -/
def leaveBlocks (state : Tokenizer) : Except Fault Tokenizer := do
  return (← (state.unwind (-1)).dropKey).withKeys false

def textEnd (state : Tokenizer) : Except Fault Tokenizer := do
  return { (← state.leaveBlocks).push .textEnd with keys := [], isFinished := true }

def directive (state : Tokenizer) : Except Fault Tokenizer := do
  let state ← state.leaveBlocks
  let ⟨token, after⟩ ← directiveToken state.cursor.step
  return (state.moved after).push token

def marker (state : Tokenizer) (token : Token) : Except Fault Tokenizer := do
  return ((← state.leaveBlocks).forward 3).push token

def openFlow (state : Tokenizer) (token : Token) : Except Fault Tokenizer := do
  let state ← state.saveKey
  return (({ state with flowLevel := state.flowLevel + 1 }.withKeys true).forward 1).push token

def closeFlow (state : Tokenizer) (token : Token) : Except Fault Tokenizer := do
  let state ← state.dropKey
  return (({ state with flowLevel := state.flowLevel - 1 }.withKeys false).forward 1).push token

def comma (state : Tokenizer) : Except Fault Tokenizer := do
  return ((← (state.withKeys true).dropKey).forward 1).push .comma

/-- Outside of brackets an indicator may start a block, but only where a key could stand. -/
def indicate (state : Tokenizer) (block : Token) : Except Fault Tokenizer :=
  if state.inFlow then .ok state
  else if state.allowsKey then .ok (state.openBlock block)
  else .error .token

def entry (state : Tokenizer) : Except Fault Tokenizer := do
  let state ← state.indicate .blockListStart
  return ((← (state.withKeys true).dropKey).forward 1).push .entry

def key (state : Tokenizer) : Except Fault Tokenizer := do
  let state ← state.indicate .blockMapStart
  return ((← (state.withKeys (!state.inFlow)).dropKey).forward 1).push .key

/-- A colon after a token that may be a key makes it one. -/
def value (state : Tokenizer) : Except Fault Tokenizer := do
  match state.keyHere? with
  | some place =>
    let state := { state with keys := state.keys.filter (·.1 != state.flowLevel) }
    let state := state.insert place.number .key
    let state :=
      if !state.inFlow && state.isIndentation place.column then
        (state.withIndent place.column).insert place.number .blockMapStart
      else state
    return ((state.withKeys false).forward 1).push .value
  | none =>
    let state ← state.indicate .blockMapStart
    return ((← (state.withKeys (!state.inFlow)).dropKey).forward 1).push .value

/-- A token that may be a key, read by a given function. -/
def possibleKey (state : Tokenizer) (read : Cursor → Except Fault (Token × Cursor)) :
    Except Fault Tokenizer := do
  let state ← state.saveKey
  let ⟨token, after⟩ ← read state.cursor
  return ((state.withKeys false).moved after).push token

def nameToken (token : String → Token) (cursor : Cursor) : Except Fault (Token × Cursor) := do
  let ⟨name, after⟩ ← anchorName cursor.step
  return (token name, after)

def quotedToken (cursor : Cursor) : Except Fault (Token × Cursor) := do
  let ⟨text, after⟩ ← quotedScalar cursor.peek (cursor.left + 1) [] cursor.step
  return (.scalar text false, after)

def block (state : Tokenizer) (isFolded : Bool) : Except Fault Tokenizer := do
  let state ← (state.withKeys true).dropKey
  let ⟨text, after⟩ ← blockScalar isFolded state.indent state.cursor.step
  return (state.moved after).push (.scalar (Text.ofCharacters text) false)

/-- A plain scalar that ends with its line may be followed by a key. -/
def plain (state : Tokenizer) : Except Fault Tokenizer := do
  let state ← state.saveKey
  let spacing := plainScalar state.inFlow (state.indent + 1) (state.cursor.left + 1) []
    ⟨[], false, state.cursor⟩
  return ((state.withKeys spacing.crossesLine).moved spacing.after).push
    (.scalar (Text.ofCharacters spacing.text) true)

/-- Whether a plain scalar can start here. -/
def startsPlain (inFlow : Bool) (cursor : Cursor) : Bool :=
  let c := cursor.peek
  let isIndicator := "-?:,[]\x7b\x7d#&*!|>'\"%@\x60".toList.contains c
  (!endsWord c && !isIndicator) ||
    (!endsWord (cursor.peek 1) && (c == '-' || (!inFlow && (c == '?' || c == ':'))))

/-- The token that starts here. -/
def token (state : Tokenizer) : Except Fault Tokenizer :=
  let cursor := state.cursor
  let isAlone := endsWord (cursor.peek 1)
  if cursor.rest.isEmpty then state.textEnd
  else if cursor.column == 0 && cursor.peek == '%' then state.directive
  else if cursor.column == 0 && cursor.isMarker '-' then state.marker .documentStart
  else if cursor.column == 0 && cursor.isMarker '.' then state.marker .documentEnd
  else
    match cursor.peek with
    | '[' => state.openFlow .flowListStart
    | '{' => state.openFlow .flowMapStart
    | ']' => state.closeFlow .flowListEnd
    | '}' => state.closeFlow .flowMapEnd
    | ',' => state.comma
    | '*' => state.possibleKey (nameToken .alias)
    | '&' => state.possibleKey (nameToken .anchor)
    | '!' => state.possibleKey tagToken
    | '\'' | '"' => state.possibleKey quotedToken
    | c =>
      if c == '-' && isAlone then state.entry
      else if c == '?' && (state.inFlow || isAlone) then state.key
      else if c == ':' && (state.inFlow || isAlone) then state.value
      else if c == '|' && !state.inFlow then state.block false
      else if c == '>' && !state.inFlow then state.block true
      else if startsPlain state.inFlow cursor then state.plain
      else .error .token

def next (state : Tokenizer) : Except Fault Tokenizer := do
  let state ← state.skipBlanks.dropStaleKeys
  let state ← (state.unwind state.cursor.column).token
  if state.isFinished then return state else state.dropStaleKeys

/-- How many tokens are certain. A token that may still turn out to be a key is not. -/
def certain (state : Tokenizer) : Nat :=
  state.keys.foldl (fun count key => min count key.2.number) state.count

end Tokenizer

/-! ## Whole texts -/

/-- The tokens of a text, as far as they can be found, and the fault that ends them, if one does. -/
structure Tokens where
  tokens : List Token
  fault : Option Fault

def tokensFrom : (fuel : Nat) → Tokenizer → Tokens
  | 0, state => ⟨state.done.reverse, none⟩
  | fuel + 1, state =>
    if state.isFinished then ⟨state.done.reverse, none⟩
    else
      match state.next with
      | .ok state => tokensFrom fuel state
      | .error fault => ⟨state.done.reverse.take state.certain, some fault⟩

/-- Every character gives rise to at most one step, apart from the last one. -/
def tokensOf (text : List Char) : Tokens :=
  tokensFrom (text.length + 2) { cursor := { rest := text } }

end ApiClient.Yaml
