import ApiClient.Text.CharacterSet.JisVendor
import ApiClient.Text.CharacterSet.JisX0208
import ApiClient.Text.CharacterSet.JisX0212
import ApiClient.Text.CharacterSet.JisX0213
import ApiClient.Text.MultiOctet

/-! Encodings of Japanese. -/

namespace ApiClient.Text.MultiOctet

/-! ## Characters -/

/-- Letters of katakana in half width, with one octet from A1 to DF. -/
def halfWidth? (octet : Nat) : Option Char :=
  if 0xa1 ≤ octet ∧ octet ≤ 0xdf then some (Char.ofNat (0xfec0 + octet)) else none

/-- The two editions of JIS X 0213. -/
inductive Edition where
  | first
  | second
  deriving DecidableEq, Repr

/-- Places with a letter and a mark, their rows and columns counted from 20. -/
def jisPairRuns : List Run := Run.listOfText "
2477=304b.309a 2478=304d.309a 2479=304f.309a 247a=3051.309a 247b=3053.309a 2577=30ab.309a
2578=30ad.309a 2579=30af.309a 257a=30b1.309a 257b=30b3.309a 257c=30bb.309a 257d=30c4.309a
257e=30c8.309a 2678=31f7.309a 2b44=e6.300 2b48=254.300 2b49=254.301 2b4a=28c.300 2b4b=28c.301
2b4c=259.300 2b4d=259.301 2b4e=25a.300 2b4f=25a.301 2b65=2e9.2e5 2b66=2e5.2e9"

/-- Places that the first edition leaves free. -/
def secondEditionPlaces : List (Nat × Nat) :=
  [(14, 1), (15, 94), (47, 52), (47, 94), (84, 7), (94, 90), (94, 91), (94, 92), (94, 93), (94, 94)]

/-- Whether a place is known, but free. -/
def isReserved (edition : Edition) (row column : Nat) : Bool :=
  edition == .first && secondEditionPlaces.contains (row, column)

/-- The characters at a place of the first plane. -/
def firstPlane? (edition : Edition) (row column : Nat) : Option (List Char) :=
  if isReserved edition row column then none
  else
    (CharacterSet.jisX0208.character? row column).map ([·]) <|>
      (CharacterSet.jisX0213.character? row column).map ([·]) <|>
      (if row = 0 ∨ column = 0 then none else listed? jisPairRuns (row + 0x20) (column + 0x20))

/-- The character at a place of the second plane. -/
def secondPlane? (edition : Edition) (row column : Nat) : Option Char :=
  if edition = .first ∧ row = 93 ∧ column = 27 then some '鬝'
  else CharacterSet.jisX0213Second.character? row column

/-! ## Octets with the highest bit -/

/-- Two octets with the highest bit are a character of the main set. After 8E comes a letter in half
width, and after 8F a character of the further set. -/
def eucWith (main further : Nat → Nat → Option (List Char)) : Reader :=
  withAscii fun first rest =>
    match rest with
    | [] => .unfinished
    | second :: others =>
      if first = 0x8e then .ofCharacter (halfWidth? second.toNat) 1
      else if first = 0x8f then
        match others with
        | [] => .unfinished
        | third :: _ =>
          match further (second.toNat - 0xa0) (third.toNat - 0xa0) with
          | some characters => .characters characters 2
          | none => .meaningless 0
      else
        match main (first.toNat - 0xa0) (second.toNat - 0xa0) with
        | some characters => .characters characters 1
        | none => .meaningless 0

def eucJp : Reader :=
  eucWith (fun row column => (CharacterSet.jisX0208.character? row column).map ([·]))
    (fun row column => (CharacterSet.jisX0212.character? row column).map ([·]))

/-- A reserved place is passed over as a whole. -/
def withReserved (edition : Edition) (place? : Nat → Nat → Option (Nat × Nat)) (read : Reader) :
    Reader := fun first rest =>
  let place := rest.head?.bind fun second => place? first.toNat second.toNat
  if place.any fun (row, column) => isReserved edition row column then .meaningless 1
  else read first rest

def eucJisX0213 (edition : Edition) : Reader :=
  withReserved edition (fun first second => some (first - 0xa0, second - 0xa0))
    (eucWith (firstPlane? edition) fun row column =>
      (secondPlane? edition row column <|> CharacterSet.jisX0212.character? row column).map ([·]))

/-! ## Shifted octets -/

def isShifted (first : Nat) : Bool :=
  (0x81 ≤ first && first ≤ 0x9f) || (0xe0 ≤ first && first ≤ 0xfc)

/-- A row and a column from first octets in two ranges, two rows to each. -/
def shiftedPlace? (first second : Nat) : Option (Nat × Nat) :=
  if !isShifted first ∨ second < 0x40 ∨ second = 0x7f ∨ 0xfc < second then none
  else
    let start := if first < 0xa0 then 0x81 else 0xc1
    let column := if second < 0x7f then second - 0x40 else second - 0x41
    some (2 * (first - start) + column / 94 + 1, column % 94 + 1)

example : shiftedPlace? 0x81 0x40 = some (1, 1) := by decide

example : shiftedPlace? 0xe0 0x9f = some (64, 1) := by decide

/-- Letters in half width take one octet, and characters at places two. -/
def shiftedWith (character? : Nat → Nat → Option (List Char)) : Reader := fun first rest =>
  match halfWidth? first.toNat with
  | some c => .characters [c] 0
  | none =>
    pairs (fun first second => do
      let (row, column) ← shiftedPlace? first second
      character? row column) first rest

def shiftJis : Reader :=
  withAscii (shiftedWith fun row column =>
    (CharacterSet.jisX0208.character? row column).map ([·]))

/-- The backslash and the tilde give way to the yen sign and the overline. -/
def withRoman (read : Reader) : Reader := fun first rest =>
  if first = 0x5c then .characters ['¥'] 0
  else if first = 0x7e then .characters ['‾'] 0
  else withAscii read first rest

/-- The rows of the second plane, in the order in which they come after the first plane. -/
def secondPlaneRows : List Nat :=
  [1, 8, 3, 4, 5, 12, 13, 14, 15] ++ (List.range 17).map (· + 78)

/-- The backslash and the tilde have places of their own. -/
def shiftJisX0213 (edition : Edition) : Reader :=
  withReserved edition shiftedPlace? (withRoman (shiftedWith fun row column =>
    if row = 1 ∧ column = 32 then some ['\\']
    else if row = 2 ∧ column = 18 then some ['~']
    else if row ≤ 94 then firstPlane? edition row column
    else do
      let row ← secondPlaneRows[row - 95]?
      (secondPlane? edition row column).map ([·])))

/-- Signs that windowed systems have in place of those of the set. -/
def windowedSigns : List ((Nat × Nat) × Char) :=
  [((1, 33), '～'), ((1, 34), '∥'), ((1, 61), '－'), ((1, 81), '￠'), ((1, 82), '￡'), ((2, 44), '￢')]

/-- The character at a place. Rows from 95 to 114 are for characters of one's own. -/
def windowedCharacter? (row column : Nat) : Option Char :=
  windowedSigns.lookup (row, column) <|> CharacterSet.jisX0208.character? row column <|>
    CharacterSet.jisVendor.character? row column <|>
    (if 95 ≤ row ∧ row ≤ 114 then some (Char.ofNat (0xe000 + (row - 95) * 94 + (column - 1)))
      else none)

/-- Single octets without a meaning stand for characters of one's own. -/
def windowedShiftJis : Reader := fun first rest =>
  if first ≤ 0x80 then .characters [Char.ofNat first.toNat] 0
  else if first = 0xa0 then .characters [Char.ofNat 0xf8f0] 0
  else if 0xfd ≤ first then .characters [Char.ofNat (0xf8f1 + (first.toNat - 0xfd))] 0
  else shiftedWith (fun row column => (windowedCharacter? row column).map ([·])) first rest

end ApiClient.Text.MultiOctet
