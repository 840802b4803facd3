import ApiClient.Text.CharacterSet.KsX1001
import ApiClient.Text.MultiOctet

/-! Encodings of Korean. A syllable is made of a leading consonant, a vowel and, often, a final
consonant. -/

namespace ApiClient.Text.MultiOctet

/-! ## Syllables -/

def leadingConsonants : List Char := "ㄱㄲㄴㄷㄸㄹㅁㅂㅃㅅㅆㅇㅈㅉㅊㅋㅌㅍㅎ".toList

def vowels : List Char := "ㅏㅐㅑㅒㅓㅔㅕㅖㅗㅘㅙㅚㅛㅜㅝㅞㅟㅠㅡㅢㅣ".toList

def finalConsonants : List Char := "ㄱㄲㄳㄴㄵㄶㄷㄹㄺㄻㄼㄽㄾㄿㅀㅁㅂㅄㅅㅆㅇㅈㅊㅋㅌㅍㅎ".toList

/-- The syllable of a leading consonant and a vowel by their places, and a final consonant by its
place counted from one, where zero is none. -/
def syllable (leading vowel final : Nat) : Char :=
  Char.ofNat (0xac00 + (leading * 21 + vowel) * 28 + final)

example : syllable 18 0 4 = '한' := by decide

/-- Stands for a part that is missing. -/
def filler : Char := 'ㅤ'

/-- The syllable of three letters. -/
def composed? (leading vowel final : Char) : Option Char := do
  let leading ← leadingConsonants.idxOf? leading
  let vowel ← vowels.idxOf? vowel
  let final ← if final = filler then some 0 else (finalConsonants.idxOf? final).map (· + 1)
  return syllable leading vowel final

/-! ## Readers -/

def koreanCharacter? (first second : Nat) : Option Char :=
  CharacterSet.ksX1001.upper? first second

/-- A filler and three letters, each of two octets, make a syllable. -/
def euc : Reader :=
  withAscii fun first rest =>
    match rest with
    | [] => .unfinished
    | second :: others =>
      if first = 0xa4 ∧ second = 0xd4 then
        match others with
        | a :: leading :: b :: vowel :: c :: final :: _ =>
          let letter := fun (octet : UInt8) => (koreanCharacter? 0xa4 octet.toNat).getD replacement
          if a = 0xa4 ∧ b = 0xa4 ∧ c = 0xa4 then
            match composed? (letter leading) (letter vowel) (letter final) with
            | some c => .characters [c] 7
            | none => .meaningless 0
          else .meaningless 0
        | _ => .unfinished
      else .ofCharacter (koreanCharacter? first.toNat second.toNat) 1

/-- The syllables without a place of their own in a set. -/
def furtherSyllables (set : CharacterSet) : Array Nat :=
  (CharacterSet.absent set.characters 0xac00 0xd7a3).toArray

/-- Second octets in letters of both cases and from 81 on. -/
def letterColumn? (second last : Nat) : Option Nat :=
  if 0x41 ≤ second ∧ second ≤ 0x5a then some (second - 0x41)
  else if 0x61 ≤ second ∧ second ≤ 0x7a then some (second - 0x61 + 26)
  else if 0x81 ≤ second ∧ second ≤ last then some (second - 0x81 + 52)
  else none

/-- The further syllables come in order where the set has no places. -/
def furtherSyllable? (first second : Nat) : Option Char := do
  let index ←
    if 0x81 ≤ first ∧ first ≤ 0xa0 then
      (letterColumn? second 0xfe).map fun column => (first - 0x81) * 178 + column
    else if 0xa1 ≤ first then
      (letterColumn? second 0xa0).map fun column => 0x20 * 178 + (first - 0xa1) * 84 + column
    else none
  ((furtherSyllables CharacterSet.ksX1001)[index]?).map Char.ofNat

def unified : Reader :=
  withAscii (pairs fun first second =>
    (koreanCharacter? first second <|> furtherSyllable? first second).map ([·]))

/-! ## Letters by bits

Five bits tell each letter of a syllable. One value of them stands for a part that is missing, and
some stand for nothing. -/

/-- The places of letters in the values from zero on: none is no letter, and zero is a missing one.
-/
def leadingBits : List (Option Nat) :=
  [none, some 0] ++ (List.range 19).map fun index => some (index + 1)

def vowelBits : List (Option Nat) :=
  [none, none, some 0, some 1, some 2, some 3, some 4, some 5, none, none, some 6, some 7, some 8,
    some 9, some 10, some 11, none, none, some 12, some 13, some 14, some 15, some 16, some 17,
    none, none, some 18, some 19, some 20, some 21]

def finalBits : List (Option Nat) :=
  [none, some 0] ++ (List.range 16).map (fun index => some (index + 1)) ++ [none] ++
    (List.range 11).map fun index => some (index + 17)

/-- A syllable, or a letter alone. -/
def syllableOfBits? (bits : Nat) : Option Char := do
  let leading ← (leadingBits[bits / 0x400 % 0x20]?).join
  let vowel ← (vowelBits[bits / 0x20 % 0x20]?).join
  let final ← (finalBits[bits % 0x20]?).join
  match leading, vowel, final with
  | 0, 0, 0 => some '　'
  | 0, 0, final + 1 => finalConsonants[final]?
  | 0, vowel + 1, 0 => vowels[vowel]?
  | leading + 1, 0, 0 => leadingConsonants[leading]?
  | leading + 1, vowel + 1, final => some (syllable leading vowel final)
  | _, _, _ => none

/-- The characters of the set other than letters and syllables, two rows to a first octet. -/
def foldedCharacter? (first second : Nat) : Option Char :=
  if first < 0xd9 ∨ first = 0xdf ∨ 0xf9 < first ∨ second < 0x31 ∨ (0x80 ≤ second ∧ second < 0x91) ∨
      second % 0x80 = 0x7f ∨ (first = 0xda ∧ 0xa1 ≤ second ∧ second ≤ 0xd3) then none
  else
    let row := if first < 0xe0 then 2 * (first - 0xd9) else 2 * first - 0x197
    let column := if second < 0x91 then second - 0x31 else second - 0x43
    CharacterSet.ksX1001.character? (row + column / 94 + 1) (column % 94 + 1)

def combining : Reader :=
  withAscii (pairs fun first second =>
    (if first < 0xd8 then syllableOfBits? (first * 0x100 + second)
      else foldedCharacter? first second).map ([·]))

end ApiClient.Text.MultiOctet
