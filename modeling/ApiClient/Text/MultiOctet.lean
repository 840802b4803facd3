import ApiClient.Text.CharacterSet
import ApiClient.Text.Table

/-! Encodings in which some characters take more octets than one. -/

namespace ApiClient.Text.MultiOctet

/-- What octets begin with: characters or something without a meaning, with the number of octets
that it takes after the first one, or a sequence that lacks its end. -/
inductive Head where
  | characters (characters : List Char) (more : Nat)
  | meaningless (more : Nat)
  | unfinished
  deriving DecidableEq, Repr

/-- A way to read what octets begin with. -/
abbrev Reader := UInt8 → List UInt8 → Head

def decodeFrom (read : Reader) : (fuel : Nat) → List UInt8 → List (Option Char)
  | 0, _ => []
  | _ + 1, [] => []
  | fuel + 1, first :: rest =>
    match read first rest with
    | .characters characters more => characters.map some ++ decodeFrom read fuel (rest.drop more)
    | .meaningless more => none :: decodeFrom read fuel (rest.drop more)
    | .unfinished => [none]

/-- Every step takes an octet, so there are no more steps than octets. -/
def decode (read : Reader) (octets : List UInt8) : List (Option Char) :=
  decodeFrom read octets.length octets

/-! ## Readers -/

def Head.ofCharacter (character : Option Char) (more : Nat) : Head :=
  match character with
  | some c => .characters [c] more
  | none => .meaningless 0

/-- ASCII stands for itself. -/
def withAscii (read : Reader) : Reader := fun first rest =>
  if first < 0x80 then .characters [Char.ofNat first.toNat] 0 else read first rest

/-- Characters of two octets, given by their values. -/
def pairs (characters? : Nat → Nat → Option (List Char)) : Reader := fun first rest =>
  match rest with
  | [] => .unfinished
  | second :: _ =>
    match characters? first.toNat second.toNat with
    | some characters => .characters characters 1
    | none => .meaningless 0

/-- The character for two octets in a table of runs, in which they are one number. -/
def listed? (runs : List Run) (first second : Nat) : Option (List Char) :=
  Run.imageOf? runs (first * 0x100 + second)

end ApiClient.Text.MultiOctet
