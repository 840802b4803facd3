/-! A place in a text, with the line and the column in which it lies, and with the number of
characters left, which bounds every search from there. A text holds no null character, which can
therefore stand for its end. -/

namespace ApiClient.Yaml

structure Cursor where
  rest : List Char
  left : Nat := rest.length
  index : Nat := 0
  line : Nat := 0
  column : Nat := 0
  deriving DecidableEq, Repr

/-! ## Classes of characters -/

def endOfText : Char := '\x00'

def isBreak (c : Char) : Bool :=
  c == '\r' || c == '\n' || c == '\x85' || c == '\u2028' || c == '\u2029'

def isBlank (c : Char) : Bool :=
  c == ' ' || c == '\t'

def endsLine (c : Char) : Bool :=
  c == endOfText || isBreak c

def endsLineOrSpace (c : Char) : Bool :=
  endsLine c || c == ' '

def endsWord (c : Char) : Bool :=
  endsLine c || isBlank c

def isAsciiDigit (c : Char) : Bool :=
  '0' ≤ c && c ≤ '9'

/-- The characters of which names are made. -/
def isNamePart (c : Char) : Bool :=
  isAsciiDigit c || ('A' ≤ c && c ≤ 'Z') || ('a' ≤ c && c ≤ 'z') || c == '-' || c == '_'

namespace Cursor

/-! ## Looking and moving -/

def peek (cursor : Cursor) (distance : Nat := 0) : Char :=
  (cursor.rest[distance]?).getD endOfText

/-- A carriage return before a line feed does not end the line by itself. A byte order mark takes no
column. -/
def step (cursor : Cursor) : Cursor :=
  match cursor.rest with
  | [] => cursor
  | c :: rest =>
    if (isBreak c && c != '\r') || (c == '\r' && rest.head? != some '\n') then
      ⟨rest, cursor.left - 1, cursor.index + 1, cursor.line + 1, 0⟩
    else
      ⟨rest, cursor.left - 1, cursor.index + 1, cursor.line,
        if c == '\ufeff' then cursor.column else cursor.column + 1⟩

def forward (cursor : Cursor) : Nat → Cursor
  | 0 => cursor
  | count + 1 => cursor.step.forward count

/-- The longest leading run of a class of characters. -/
def run (cursor : Cursor) (among : Char → Bool) : List Char :=
  cursor.rest.takeWhile among

def skip (cursor : Cursor) (among : Char → Bool) : Cursor :=
  cursor.forward (cursor.run among).length

def skipSpaces (cursor : Cursor) : Cursor :=
  cursor.skip (· == ' ')

def skipLine (cursor : Cursor) : Cursor :=
  cursor.skip (!isBreak ·)

/-- A line break, as the character for which it counts. -/
def lineBreak? (cursor : Cursor) : Option (Char × Cursor) :=
  let c := cursor.peek
  if c == '\u2028' || c == '\u2029' then some (c, cursor.step)
  else if c == '\r' && cursor.peek 1 == '\n' then some ('\n', cursor.forward 2)
  else if isBreak c then some ('\n', cursor.step)
  else none

def skipLineBreak (cursor : Cursor) : Cursor :=
  match cursor.lineBreak? with
  | some (_, after) => after
  | none => cursor

/-- Three times the same character, and nothing more in the word. -/
def isMarker (cursor : Cursor) (c : Char) : Bool :=
  cursor.rest.take 3 == [c, c, c] && endsWord (cursor.peek 3)

/-- A marker that starts or ends a document. -/
def isSeparator (cursor : Cursor) : Bool :=
  cursor.isMarker '-' || cursor.isMarker '.'

end Cursor

end ApiClient.Yaml
