import ApiClient.Text.Decomposition

/-! The canonical composed form of a text. Characters that stand for others in a row are taken
apart, the marks are put in the order of their classes, and what then stands for one character
becomes it. -/

namespace ApiClient.Text

/-! ## Decomposition -/

/-- The characters that stand for others without any loss, Hangul syllables apart. -/
def canonicalRanges : List Range := Range.listOfText "
c0-c5 c7-cf d1-d6 d9-dd e0-e5 e7-ef f1-f6 f9-fd ff-10f 112-125 128-130 134-137 139-13e 143-148
14c-151 154-165 168-17e 1a0-1a1 1af-1b0 1cd-1dc 1de-1e3 1e6-1f0 1f4-1f5 1f8-21b 21e-21f 226-233
340-341 343-344 374 37e 385-38a 38c 38e-390 3aa-3b0 3ca-3ce 3d3-3d4 400-401 403 407 40c-40e 419 439
450-451 453 457 45c-45e 476-477 4c1-4c2 4d0-4d3 4d6-4d7 4da-4df 4e2-4e7 4ea-4f5 4f8-4f9 622-626 6c0
6c2 6d3 929 931 934 958-95f 9cb-9cc 9dc-9dd 9df a33 a36 a59-a5b a5e b48 b4b-b4c b5c-b5d b94 bca-bcc
c48 cc0 cc7-cc8 cca-ccb d4a-d4c dda ddc-dde f43 f4d f52 f57 f5c f69 f73 f75-f76 f78 f81 f93 f9d fa2
fa7 fac fb9 1026 1b06 1b08 1b0a 1b0c 1b0e 1b12 1b3b 1b3d 1b40-1b41 1b43 1e00-1e99 1e9b 1ea0-1ef9
1f00-1f15 1f18-1f1d 1f20-1f45 1f48-1f4d 1f50-1f57 1f59 1f5b 1f5d 1f5f-1f7d 1f80-1fb4 1fb6-1fbc 1fbe
1fc1-1fc4 1fc6-1fd3 1fd6-1fdb 1fdd-1fef 1ff2-1ff4 1ff6-1ffd 2000-2001 2126 212a-212b 219a-219b 21ae
21cd-21cf 2204 2209 220c 2224 2226 2241 2244 2247 2249 2260 2262 226d-2271 2274-2275 2278-2279
2280-2281 2284-2285 2288-2289 22ac-22af 22e0-22e3 22ea-22ed 2329-232a 2adc 304c 304e 3050 3052 3054
3056 3058 305a 305c 305e 3060 3062 3065 3067 3069 3070-3071 3073-3074 3076-3077 3079-307a 307c-307d
3094 309e 30ac 30ae 30b0 30b2 30b4 30b6 30b8 30ba 30bc 30be 30c0 30c2 30c5 30c7 30c9 30d0-30d1
30d3-30d4 30d6-30d7 30d9-30da 30dc-30dd 30f4 30f7-30fa 30fe f900-fa0d fa10 fa12 fa15-fa1e fa20 fa22
fa25-fa26 fa2a-fa6d fa70-fad9 fb1d fb1f fb2a-fb36 fb38-fb3c fb3e fb40-fb41 fb43-fb44 fb46-fb4e
1109a 1109c 110ab 1112e-1112f 1134b-1134c 114bb-114bc 114be 115ba-115bb 11938 1d15e-1d164
1d1bb-1d1c0 2f800-2fa1d"

/-- Those among them that are not composed again. -/
def decomposedRanges : List Range := Range.listOfText "
340-341 343-344 374 37e 387 958-95f 9dc-9dd 9df a33 a36 a59-a5b a5e b5c-b5d f43 f4d f52 f57 f5c f69
f73 f75-f76 f78 f81 f93 f9d fa2 fa7 fac fb9 1f71 1f73 1f75 1f77 1f79 1f7b 1f7d 1fbb 1fbe 1fc9 1fcb
1fd3 1fdb 1fe3 1feb 1fee-1fef 1ff9 1ffb 1ffd 2000-2001 2126 212a-212b 2329-232a 2adc f900-fa0d fa10
fa12 fa15-fa1e fa20 fa22 fa25-fa26 fa2a-fa6d fa70-fad9 fb1d fb1f fb2a-fb36 fb38-fb3c fb3e fb40-fb41
fb43-fb44 fb46-fb4e 1d15e-1d164 1d1bb-1d1c0 2f800-2fa1d"

/-- Those among them whose compatibility decomposition goes further. -/
def canonicalRuns : List Run := Run.listOfText "
385=a8.301 3d3=3d2.301 3d4=3d2.308 1e9b=17f.307 1fc1=a8.342 1fcd=1fbf.300 1fce=1fbf.301
1fcf=1fbf.342 1fdd=1ffe.300 1fde=1ffe.301 1fdf=1ffe.342 1fed=a8.300 1fee=a8.301 1ffd=b4
2000+2=2002"

def canonicalParts (c : Char) : List Char :=
  if c.toNat < 0xc0 then [c]
  else if isSyllable c.toNat then hangulParts c.toNat
  else if canonicalRanges.any (·.contains c) then
    (Run.image? canonicalRuns c).getD (decompose c)
  else [c]

/-! ## Order of marks -/

/-- Put a character behind others, which are listed last first. A mark goes before those of greater
classes. -/
def insertMark (c : Char) : List Char → List Char
  | [] => [c]
  | last :: done =>
    if combiningClass c ≠ 0 ∧ combiningClass c < combiningClass last then last :: insertMark c done
    else c :: last :: done

def orderedMarks (text : List Char) : List Char :=
  (text.foldl (fun done c => insertMark c done) []).reverse

/-! ## Composition -/

def Range.characters (range : Range) : List Char :=
  (List.range (range.last + 1 - range.first)).map fun offset => Char.ofNat (range.first + offset)

/-- Composed characters, each after its parts. -/
def composites : List (List Char × Char) :=
  (canonicalRanges.flatMap Range.characters).filterMap fun c =>
    if decomposedRanges.any (·.contains c) then none else some (canonicalParts c, c)

/-- The Hangul syllable of two parts. -/
def syllable? (first second : Char) : Option Char :=
  let leading := first.toNat - firstLeading
  let vowel := second.toNat - firstVowel
  let trailing := second.toNat - beforeTrailing
  let index := first.toNat - firstSyllable
  if firstLeading ≤ first.toNat ∧ leading < 19 ∧ firstVowel ≤ second.toNat ∧ vowel < vowelCount then
    some (Char.ofNat (firstSyllable + (leading * vowelCount + vowel) * trailingCount))
  else if isSyllable first.toNat ∧ index % trailingCount = 0 ∧ beforeTrailing < second.toNat ∧
      trailing < trailingCount then
    some (Char.ofNat (first.toNat + trailing))
  else none

/-- The character that stands for two. Its parts are those of the first one, and the second one. -/
def composite? (first second : Char) : Option Char :=
  (syllable? first second).or
    (composites.lookup (canonicalParts first ++ [second]))

/-- Compose a character with those that follow it. The marks between, which did not become a part of
it, are listed last first; one that is not of a lower class keeps it from what follows. -/
def composedAfter (first : Char) (between : List Char) : List Char → List Char
  | [] => first :: between.reverse
  | c :: rest =>
    let isNext := between.head?.all fun last => combiningClass last < combiningClass c
    match if isNext then composite? first c else none with
    | some whole => composedAfter whole between rest
    | none =>
      if combiningClass c = 0 then first :: between.reverse ++ composedAfter c [] rest
      else composedAfter first (c :: between) rest

/-- The canonical composed form of a text. -/
def composed (text : List Char) : List Char :=
  match orderedMarks (text.flatMap canonicalParts) with
  | [] => []
  | c :: rest => composedAfter c [] rest

end ApiClient.Text
