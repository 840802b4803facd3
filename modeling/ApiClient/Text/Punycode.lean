import ApiClient.Text.CodePoint

/-! Punycode: a text past ASCII as letters, digits and hyphens. The ASCII characters stand first;
after the last hyphen every other character is told by its distance from the one before it, in the
order of code points and then of places. -/

namespace ApiClient.Text.Punycode

/-! ## Distances

A distance is written in digits whose weight depends on a bias, which follows the distances written
so far. -/

def digit (value : Nat) : Char :=
  Char.ofNat (if value < 26 then 0x61 + value else 0x30 + (value - 26))

/-- The least digit at a place that more digits follow. -/
def threshold (place bias : Nat) : Nat :=
  if place ≤ bias then 1 else if bias + 26 ≤ place then 26 else place - bias

theorem one_le_threshold (place bias : Nat) : 1 ≤ threshold place bias := by
  unfold threshold
  split
  · omega
  · split <;> omega

theorem threshold_le (place bias : Nat) : threshold place bias ≤ 26 := by
  unfold threshold
  split
  · omega
  · split <;> omega

def digits (bias place value : Nat) : List Char :=
  let least := threshold place bias
  if value < least then [digit value]
  else
    digit (least + (value - least) % (36 - least)) ::
      digits bias (place + 36) ((value - least) / (36 - least))
termination_by value
decreasing_by
  have := one_le_threshold place bias
  have := threshold_le place bias
  exact Nat.lt_of_le_of_lt (Nat.div_le_self _ _) (by omega)

def scaled (distance place : Nat) : Nat :=
  if 455 < distance then scaled (distance / 35) (place + 36)
  else place + 36 * distance / (distance + 38)
termination_by distance
decreasing_by exact Nat.div_lt_self (by omega) (by omega)

/-- The bias after a distance, given how many characters are written by then. -/
def adapted (distance written : Nat) (isFirst : Bool) : Nat :=
  let distance := if isFirst then distance / 700 else distance / 2
  scaled (distance + distance / written) 0

/-! ## Texts -/

structure Progress where
  output : List Char
  distance : Nat := 0
  bias : Nat := 72
  written : Nat

/-- Pass one character of the text while those with a certain code point are written. -/
def pass (basic code : Nat) (progress : Progress) (c : Char) : Progress :=
  if c.toNat < code then { progress with distance := progress.distance + 1 }
  else if c.toNat = code then
    { output := progress.output ++ digits progress.bias 36 progress.distance
      bias := adapted progress.distance (progress.written + 1) (progress.written == basic)
      written := progress.written + 1 }
  else progress

/-- Write the characters with each of some code points, which come in rising order. -/
def writeAll (text : List Char) (basic : Nat) : List Nat → Nat → Progress → List Char
  | [], _, progress => progress.output
  | code :: rest, reached, progress =>
    let distance := progress.distance + (code - reached) * (progress.written + 1)
    let progress := text.foldl (pass basic code) { progress with distance }
    writeAll text basic rest (code + 1) { progress with distance := progress.distance + 1 }

def insertCode (code : Nat) : List Nat → List Nat
  | [] => [code]
  | other :: rest =>
    if code < other then code :: other :: rest
    else if code = other then other :: rest
    else other :: insertCode code rest

def encode (text : List Char) : List Char :=
  let basic := text.filter (·.toNat < 0x80)
  let codes := (text.filter (0x80 ≤ ·.toNat)).foldr (fun c codes => insertCode c.toNat codes) []
  let start := if basic.isEmpty then [] else basic ++ ['-']
  writeAll text basic.length codes 0x80 { output := start, written := basic.length }

/-! ## Reading -/

def digitValue? (c : Char) : Option Nat :=
  if c.isDigit then some (c.toNat - 0x30 + 26)
  else if c.isAlpha then some (c.toLower.toNat - 0x61)
  else none

/-- A distance at the start of a text, and what follows it. -/
def distance? (bias place weight value : Nat) : List Char → Option (Nat × List Char)
  | [] => none
  | c :: rest => do
    let least := threshold place bias
    let digit ← digitValue? c
    let value := value + digit * weight
    if digit < least then some (value, rest)
    else distance? bias (place + 36) (weight * (36 - least)) value rest

/-- What has been read: the code points, the bias, the code point of the last one that was put in,
and the place after it. -/
structure Reading where
  output : Text
  bias : Nat := 72
  code : Nat := 0x80
  place : Nat := 0

/-- Put a character in, at some distance from the last one. Past the last code point there is none,
and a question mark may stand in for it. -/
def Reading.insert? (isLossy : Bool) (distance : Nat) (isFirst : Bool) (reading : Reading) :
    Option Reading :=
  let count := reading.output.length + 1
  let code := reading.code + (reading.place + distance) / count
  let place := (reading.place + distance) % count
  if code > 0x10ffff ∧ !isLossy then none
  else
    let code := if code > 0x10ffff then 0x3f else code
    some {
      output := reading.output.take place ++ CodePoint.ofNat code :: reading.output.drop place
      bias := adapted distance count isFirst
      code
      place := place + 1 }

/-- Read distances. What cannot be read ends the text, if that may be. -/
def readFrom (isLossy : Bool) : (fuel : Nat) → (isFirst : Bool) → Reading → List Char → Option Text
  | 0, _, reading, _ => some reading.output
  | _ + 1, _, reading, [] => some reading.output
  | fuel + 1, isFirst, reading, text =>
    match distance? reading.bias 36 1 0 text with
    | none => if isLossy then some reading.output else none
    | some (distance, rest) => do
      readFrom isLossy fuel false (← reading.insert? isLossy distance isFirst) rest

/-- The ASCII characters before the last hyphen, and the distances after it. -/
def cutBasic (text : List Char) : List Char × List Char :=
  let distances := (text.reverse.takeWhile (· != '-')).reverse
  (text.take (text.length - distances.length - 1), distances)

def decodeWith (isLossy : Bool) (text : List Char) : Option Text :=
  let (basic, distances) := cutBasic text
  readFrom isLossy distances.length true { output := Text.ofCharacters basic } distances

def decode? (text : List Char) : Option Text :=
  decodeWith false text

example : decode? "bcher-kva".toList = some "bücher" := by decide +kernel

end ApiClient.Text.Punycode
