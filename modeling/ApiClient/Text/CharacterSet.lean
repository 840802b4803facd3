import ApiClient.Text.CodePage

/-! Character sets with two numbers to a character: a row, and a column in it that is counted from
one. -/

namespace ApiClient.Text

/-- Blocks of rows without a gap, each with the number of its first row. The replacement character
stands where a set has no character. -/
structure CharacterSet where
  width : Nat
  blocks : List (Nat × Array Char)

namespace CharacterSet

/-- The characters of a block are written row by row. Line breaks among them do not count. -/
def ofBlocks (width : Nat) (blocks : List (Nat × String)) : CharacterSet :=
  ⟨width, blocks.map fun (row, text) => (row, (text.toList.filter (· != '\n')).toArray)⟩

def character? (set : CharacterSet) (row column : Nat) : Option Char :=
  if column = 0 ∨ set.width < column then none
  else
    (set.blocks.findSome? fun (first, characters) =>
      if row < first then none
      else characters[(row - first) * set.width + (column - 1)]?).filter (· != replacement)

example : (ofBlocks 2 [(1, "ab\n"), (4, "cd")]).character? 4 1 = some 'c' := by decide +kernel

/-- The character at a place that two octets tell, in a set of 94 rows and columns. Octets from A1
on count as one and up. -/
def upper? (set : CharacterSet) (first second : Nat) : Option Char :=
  set.character? (first - 0xa0) (second - 0xa0)

def characters (set : CharacterSet) : List Char :=
  set.blocks.flatMap (·.2.toList)

/-- The code points of a range that have no place among some characters, in rising order. -/
def absent (characters : List Char) (first last : Nat) : List Nat :=
  let present := characters.foldl (fun present c => present.setIfInBounds c.toNat true)
    (Array.replicate (last + 1) false)
  ((List.range (last + 1)).drop first).filter fun code => !(present[code]?).getD true

example : absent ['b', 'd', 'z'] 0x61 0x65 = [0x61, 0x63, 0x65] := by decide +kernel

end CharacterSet

end ApiClient.Text
