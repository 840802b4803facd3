import ApiClient.Data.Yaml.Cursor
import ApiClient.Data.Yaml.Fault
import ApiClient.Text.Numeral

/-! The written forms of scalars: plain, quoted, and as a block of lines. Each gives the text it
stands for and the place after it. -/

namespace ApiClient.Yaml

/-- One line break becomes a space, unless it is a separator of its own. Of several, the first is
dropped. -/
def foldedBreaks (first : Char) (others : List Char) : List Char :=
  if first != '\n' then first :: others
  else if others.isEmpty then [' ']
  else others

/-! ## Plain scalars -/

/-- Characters that end a plain scalar inside brackets. -/
def isFlowIndicator (c : Char) : Bool :=
  c == ',' || c == '[' || c == ']' || c == '\x7b' || c == '\x7d'

/-- A colon ends a plain scalar if it could stand before a value. -/
def endsKey (inFlow : Bool) (next : Char) : Bool :=
  endsWord next || (inFlow && isFlowIndicator next)

/-- The characters of a plain scalar up to a blank, a break or an indicator. -/
def plainRun (inFlow : Bool) : List Char → List Char
  | [] => []
  | c :: rest =>
    if endsWord c || (c == ':' && endsKey inFlow (rest.headD endOfText)) ||
        (inFlow && (c == '?' || isFlowIndicator c)) then []
    else c :: plainRun inFlow rest

/-- What stands between two runs: the text for which it counts, whether it goes over a line, and the
place after it. -/
structure Spacing where
  text : List Char
  crossesLine : Bool
  after : Cursor

/-- Spaces and further breaks. There is no text if a document ends among them. -/
def plainBreaks : (fuel : Nat) → List Char → Cursor → Option (List Char) × Cursor
  | 0, done, cursor => (some done, cursor)
  | fuel + 1, done, cursor =>
    if cursor.peek == ' ' then plainBreaks fuel done cursor.step
    else
      match cursor.lineBreak? with
      | none => (some done, cursor)
      | some (c, after) =>
        if after.isSeparator then (none, after) else plainBreaks fuel (done ++ [c]) after

def plainSpacing (cursor : Cursor) : Spacing :=
  let spaces := cursor.run (· == ' ')
  let cursor := cursor.forward spaces.length
  match cursor.lineBreak? with
  | none => ⟨spaces, false, cursor⟩
  | some (first, after) =>
    if after.isSeparator then ⟨[], true, after⟩
    else
      match plainBreaks (after.left + 1) [] after with
      | (none, after) => ⟨[], true, after⟩
      | (some others, after) => ⟨foldedBreaks first others, true, after⟩

/-- A plain scalar goes on from run to run, over lines that are indented far enough. -/
def plainScalar (inFlow : Bool) (indent : Int) : (fuel : Nat) → List Char → Spacing → Spacing
  | 0, done, spacing => { spacing with text := done }
  | fuel + 1, done, spacing =>
    let cursor := spacing.after
    let run := plainRun inFlow cursor.rest
    if cursor.peek == '#' || run.isEmpty then { spacing with text := done }
    else
      let done := done ++ spacing.text ++ run
      let spacing := plainSpacing (cursor.forward run.length)
      if spacing.text.isEmpty || spacing.after.peek == '#' ||
          (!inFlow && (spacing.after.column : Int) < indent) then
        { spacing with text := done }
      else plainScalar inFlow indent fuel done spacing

/-! ## Quoted scalars -/

def escapedCharacter? : Char → Option Char
  | '0' => some '\x00'
  | 'a' => some '\x07'
  | 'b' => some '\x08'
  | 't' | '\t' => some '\t'
  | 'n' => some '\n'
  | 'v' => some '\x0b'
  | 'f' => some '\x0c'
  | 'r' => some '\r'
  | 'e' => some '\x1b'
  | ' ' => some ' '
  | '"' => some '"'
  | '\\' => some '\\'
  | '/' => some '/'
  | 'N' => some '\x85'
  | '_' => some '\xa0'
  | 'L' => some '\u2028'
  | 'P' => some '\u2029'
  | _ => none

/-- How many hexadecimal digits follow an escape. -/
def escapeWidth? : Char → Option Nat
  | 'x' => some 2
  | 'u' => some 4
  | 'U' => some 8
  | _ => none

/-- The number that the next digits write, if there are enough of them. -/
def hexNumber? (cursor : Cursor) (width : Nat) : Option Nat :=
  let digits := cursor.rest.take width
  if digits.length < width then none
  else digits.foldlM (fun value c => (Text.Numeral.digitIn? 16 c).map (16 * value + ·)) 0

/-- The code point of a number. Halves of a surrogate pair are not joined. -/
def codePointOf (code : Nat) : Except Fault CodePoint :=
  if code > 0x10ffff then .error (.characterCode code) else .ok (.ofNat code)

/-- Blank lines inside quotes, with the blanks around them. -/
def quotedBreaks : (fuel : Nat) → List Char → Cursor → Except Fault (List Char × Cursor)
  | 0, _, _ => .error .token
  | fuel + 1, done, cursor =>
    if cursor.isSeparator then .error .token
    else
      let cursor := cursor.skip isBlank
      match cursor.lineBreak? with
      | none => .ok (done, cursor)
      | some (c, after) => quotedBreaks fuel (done ++ [c]) after

/-- Blanks inside quotes, which are folded if a line ends among them. -/
def quotedSpacing (cursor : Cursor) : Except Fault (List Char × Cursor) :=
  let blanks := cursor.run isBlank
  let cursor := cursor.forward blanks.length
  if cursor.rest.isEmpty then .error .token
  else
    match cursor.lineBreak? with
    | none => .ok (blanks, cursor)
    | some (first, after) => do
      let ⟨others, after⟩ ← quotedBreaks (after.left + 1) [] after
      return (foldedBreaks first others, after)

/-- What follows a backslash. -/
def quotedEscape (cursor : Cursor) : Except Fault (Text × Cursor) :=
  let c := cursor.peek
  match escapedCharacter? c, escapeWidth? c with
  | some value, _ => .ok ([.char value], cursor.step)
  | none, some width =>
    match hexNumber? cursor.step width with
    | none => .error .token
    | some code => do return ([← codePointOf code], cursor.forward (1 + width))
  | none, none =>
    match cursor.lineBreak? with
    | none => .error .token
    | some (_, after) => do
      let ⟨breaks, after⟩ ← quotedBreaks (after.left + 1) [] after
      return (Text.ofCharacters breaks, after)

/-- A quoted scalar after its opening quote. -/
def quotedScalar (quote : Char) :
    (fuel : Nat) → Text → Cursor → Except Fault (Text × Cursor)
  | 0, _, _ => .error .token
  | fuel + 1, done, cursor =>
    let c := cursor.peek
    if endsWord c then do
      let ⟨text, after⟩ ← quotedSpacing cursor
      quotedScalar quote fuel (done ++ Text.ofCharacters text) after
    else if c == '\\' && quote == '"' then do
      let ⟨text, after⟩ ← quotedEscape cursor.step
      quotedScalar quote fuel (done ++ text) after
    else if c == quote then
      if quote == '\'' && cursor.peek 1 == quote then
        quotedScalar quote fuel (done ++ [.char c]) (cursor.forward 2)
      else .ok (done, cursor.step)
    else quotedScalar quote fuel (done ++ [.char c]) cursor.step

/-! ## Block scalars -/

/-- What becomes of the line breaks at the end of a block. -/
inductive Chomping where
  | strip
  | clip
  | keep
  deriving DecidableEq, Repr

structure BlockHeader where
  chomping : Chomping := .clip
  increment : Option Nat := none

def chomping? : Char → Option Chomping
  | '+' => some .keep
  | '-' => some .strip
  | _ => none

/-- An indentation indicator, which is never zero. -/
def increment? (c : Char) : Except Fault (Option Nat) :=
  if c == '0' then .error .token
  else if isAsciiDigit c then .ok (some (c.toNat - 0x30))
  else .ok none

/-- The indicators after the mark of a block, in either order. -/
def blockIndicators (cursor : Cursor) : Except Fault (BlockHeader × Cursor) := do
  match chomping? cursor.peek with
  | some chomping =>
    match ← increment? (cursor.peek 1) with
    | some increment => return (⟨chomping, some increment⟩, cursor.forward 2)
    | none => return (⟨chomping, none⟩, cursor.step)
  | none =>
    match ← increment? cursor.peek with
    | none => return ({}, cursor)
    | some increment =>
      match chomping? (cursor.peek 1) with
      | some chomping => return (⟨chomping, some increment⟩, cursor.forward 2)
      | none => return (⟨.clip, some increment⟩, cursor.step)

/-- The rest of a line that may hold nothing but a comment. -/
def skipComment (cursor : Cursor) : Except Fault Cursor :=
  let cursor := cursor.skipSpaces
  let cursor := if cursor.peek == '#' then cursor.skipLine else cursor
  if endsLine cursor.peek then .ok cursor.skipLineBreak else .error .token

def blockHeader (cursor : Cursor) : Except Fault (BlockHeader × Cursor) := do
  let ⟨header, cursor⟩ ← blockIndicators cursor
  if !endsLineOrSpace cursor.peek then throw .token
  return (header, ← skipComment cursor)

/-- Leave at most as many spaces behind as lead to a column. -/
def skipIndentation (indent : Nat) (cursor : Cursor) : Cursor :=
  cursor.forward (min (indent - cursor.column) (cursor.run (· == ' ')).length)

/-- Blank lines, each as its break. -/
def blockBreaks (indent : Nat) : (fuel : Nat) → List Char → Cursor → List Char × Cursor
  | 0, done, cursor => (done, cursor)
  | fuel + 1, done, cursor =>
    let cursor := skipIndentation indent cursor
    match cursor.lineBreak? with
    | none => (done, cursor)
    | some (c, after) => blockBreaks indent fuel (done ++ [c]) after

/-- Leading blank lines and spaces, and the greatest column among them. -/
def blockIndentation : (fuel : Nat) → List Char → Nat → Cursor → List Char × Nat × Cursor
  | 0, done, greatest, cursor => (done, greatest, cursor)
  | fuel + 1, done, greatest, cursor =>
    if cursor.peek == ' ' then
      blockIndentation fuel done (max greatest cursor.step.column) cursor.step
    else
      match cursor.lineBreak? with
      | none => (done, greatest, cursor)
      | some (c, after) => blockIndentation fuel (done ++ [c]) greatest after

/-- The lines of a block up to its last break, that break, the blank lines after it, and the place
after those. -/
structure Block where
  text : List Char
  ending : List Char
  breaks : List Char
  after : Cursor

def isInBlock (indent : Nat) (cursor : Cursor) : Bool :=
  cursor.column == indent && !cursor.rest.isEmpty

/-- Where two lines of a folded block meet. Lines that start with a blank are not folded. -/
def joint (isFolded leadsWithBlank : Bool) (block : Block) : List Char :=
  if isFolded && block.ending == ['\n'] && !leadsWithBlank && !isBlank block.after.peek then
    if block.breaks.isEmpty then [' '] else []
  else block.ending

def blockLines (isFolded : Bool) (indent : Nat) : (fuel : Nat) → Block → Block
  | 0, block => block
  | fuel + 1, block =>
    if isInBlock indent block.after then
      let cursor := block.after
      let line := cursor.run (!isBreak ·)
      let cursor' := cursor.forward line.length
      let ending := (cursor'.lineBreak?.map fun (c, _) => [c]).getD []
      let ⟨breaks, after⟩ := blockBreaks indent (cursor'.left + 1) [] cursor'.skipLineBreak
      let next : Block := ⟨block.text ++ block.breaks ++ line, ending, breaks, after⟩
      if isInBlock indent after then
        let text := next.text ++ joint isFolded (isBlank cursor.peek) next
        blockLines isFolded indent fuel { next with text }
      else next
    else block

/-- A block scalar after its mark, in a collection of the given indentation. -/
def blockScalar (isFolded : Bool) (parent : Int) (cursor : Cursor) :
    Except Fault (List Char × Cursor) := do
  let ⟨header, cursor⟩ ← blockHeader cursor
  let least := (parent + 1).toNat.max 1
  let fuel := cursor.left + 1
  let ⟨indent, breaks, cursor⟩ : Nat × List Char × Cursor :=
    match header.increment with
    | some increment => (least + increment - 1, blockBreaks (least + increment - 1) fuel [] cursor)
    | none =>
      let ⟨breaks, greatest, cursor⟩ := blockIndentation fuel [] 0 cursor
      (max least greatest, breaks, cursor)
  let block := blockLines isFolded indent fuel ⟨[], [], breaks, cursor⟩
  let tail :=
    match header.chomping with
    | .strip => []
    | .clip => block.ending
    | .keep => block.ending ++ block.breaks
  return (block.text ++ tail, block.after)

end ApiClient.Yaml
