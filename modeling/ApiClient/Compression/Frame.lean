import ApiClient.Compression.Checksum
import ApiClient.Compression.Deflate

/-! Compressed octets between a header and a check of what they hold. There are two frames, one for
files and one for streams; octets can also come without any. What follows a frame is passed over. -/

namespace ApiClient.Compression

/-! ## Headers -/

abbrev Header := StateT (List UInt8) (Except Stop)

namespace Header

def fail (found : Fault) : Header α :=
  throw (.fault found)

/-- As many octets, if they are there. -/
def take (count : Nat) : Header (List UInt8) := do
  let octets ← get
  if octets.length < count then throw .truncated
  set (octets.drop count)
  return octets.take count

/-- Pass over octets up to a zero. -/
def skipName : Header Unit := do
  match (← get).dropWhile (· != 0) with
  | [] => throw .truncated
  | _ :: rest => set rest

end Header

open Header in
/-- The header of a file: two octets that mark it, the method, flags for what else there is, and six
octets that tell nothing about the content. -/
def fileHeader : Header Unit := do
  let start ← get
  if (← take 2) ≠ [0x1f, 0x8b] then Header.fail .header
  match ← take 2 with
  | [method, flags] =>
    if method ≠ 8 then Header.fail .method
    if 0x20 ≤ flags then Header.fail .flags
    let _ ← take 6
    let has (place : Nat) : Bool := flags.toNat.testBit place
    if has 2 then
      let size ← take 2
      let _ ← take (size.foldr (fun octet size => octet.toNat + 0x100 * size) 0)
    if has 3 then skipName
    if has 4 then skipName
    if has 1 then
      let header := start.take (start.length - (← get).length)
      let given ← take 2
      let given := given.foldr (fun octet value => octet.toNat + 0x100 * value) 0
      if given ≠ cyclicCheck header % 0x10000 then Header.fail .headerCheck
  | _ => throw .truncated

/-- The header of a stream: two octets with the method, the size of the window and flags, that are a
multiple of 31 as one number. -/
def streamHeader : Header Unit := do
  match ← Header.take 2 with
  | [first, second] =>
    if (first.toNat * 0x100 + second.toNat) % 31 ≠ 0 then Header.fail .header
    if first % 16 ≠ 8 then Header.fail .method
    if 7 < first / 16 then Header.fail .window
    if second.toNat.testBit 5 then
      let _ ← Header.take 4
      Header.fail .dictionary
  | _ => throw .truncated

/-! ## Frames -/

/-- The check of a file comes with the lowest octet first, and the size of the content follows it.
-/
def fileTrailer : Inflation Unit := do
  align
  let output := (← get).output
  if (← number 32) ≠ cyclicCheck output.toList then fail .check
  if (← number 32) ≠ output.size % 0x100000000 then fail .size

/-- The check of a stream comes with the highest octet first. -/
def streamTrailer : Inflation Unit := do
  align
  let output := (← get).output
  let mut check := 0
  for _ in List.range 4 do
    check := 0x100 * check + (← number 8)
  if check ≠ runningCheck output.toList then fail .check

def framed (header : Header Unit) (trailer : Inflation Unit) (octets : List UInt8) :
    Except Fault (List UInt8) :=
  match header.run octets with
  | .ok (_, content) => inflated content trailer
  | .error (.fault found) => .error found
  | .error .truncated => .ok []

/-- The content of a compressed file. -/
def ofFile (octets : List UInt8) : Except Fault (List UInt8) :=
  framed fileHeader fileTrailer octets

/-- The content of a compressed stream, which may come without a frame. -/
def ofStream (octets : List UInt8) : Except Fault (List UInt8) :=
  match framed streamHeader streamTrailer octets with
  | .ok content => .ok content
  | .error _ => inflated octets (pure ())

example : (ofStream [0x4b, 0x4c, 0x02, 0x00]).toOption = some [0x61, 0x62] := by decide +kernel

end ApiClient.Compression
