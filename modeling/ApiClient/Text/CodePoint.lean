/-! Code points, and texts as sequences of them. Data can name half of a surrogate pair by an
escape. Such a half is no character and cannot be written to a file, but until then it is a part of
a text like any other. -/

namespace ApiClient

inductive CodePoint where
  | char (c : Char)
  | surrogate (index : Fin 2048)
  deriving DecidableEq, Repr, Inhabited

namespace CodePoint

instance : Coe Char CodePoint := ⟨.char⟩

def toNat : CodePoint → Nat
  | .char c => c.toNat
  | .surrogate index => 0xd800 + index

def ofNat (code : Nat) : CodePoint :=
  if bounds : code - 0xd800 < 2048 ∧ 0xd800 ≤ code then .surrogate ⟨code - 0xd800, bounds.1⟩
  else .char (Char.ofNat code)

example : ofNat 0xdfff = .surrogate 2047 := by decide

def character? : CodePoint → Option Char
  | .char c => some c
  | .surrogate _ => none

def isSurrogate : CodePoint → Bool
  | .char _ => false
  | .surrogate _ => true

/-! The first half of a pair is high, and the second one is low. -/

def isHighHalf (code : Nat) : Bool :=
  0xd800 ≤ code && code < 0xdc00

def isLowHalf (code : Nat) : Bool :=
  0xdc00 ≤ code && code < 0xe000

/-- The character that two halves of a pair make. -/
def pair? (high low : Nat) : Option Char :=
  if isHighHalf high && isLowHalf low then
    some (Char.ofNat (0x10000 + (high - 0xd800) * 0x400 + (low - 0xdc00)))
  else none

example : pair? 0xd83d 0xde00 = some '😀' := by decide

/-- A class of characters holds no surrogates. -/
def isIn (among : Char → Bool) : CodePoint → Bool
  | .char c => among c
  | .surrogate _ => false

end CodePoint

abbrev Text := List CodePoint

namespace Text

def ofCharacters (characters : List Char) : Text :=
  characters.map .char

def ofString (text : String) : Text :=
  ofCharacters text.toList

instance : Coe String Text := ⟨ofString⟩

/-- A number in decimal digits. -/
def ofNat (number : Nat) : Text :=
  ofString (toString number)

def ofInt (number : Int) : Text :=
  ofString (toString number)

/-- The characters of a text without surrogates. -/
def characters? : Text → Option (List Char)
  | [] => some []
  | .char c :: rest => (characters? rest).map (c :: ·)
  | .surrogate _ :: _ => none

end Text

/-- Texts with a separator between neighbours. -/
def joined (separator : Text) : List Text → Text
  | [] => []
  | [text] => text
  | text :: rest => text ++ separator ++ joined separator rest

end ApiClient
