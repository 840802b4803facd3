import ApiClient.Text.CodePoint

/-! UTF-16 and UTF-32: encodings in units of two octets and of four. -/

namespace ApiClient.Text.WideUnits

/-- Which octet of a unit comes first. -/
inductive Order where
  | lowFirst
  | highFirst
  deriving DecidableEq, Repr

def unit : Order → List UInt8 → Nat
  | .lowFirst, octets => octets.foldr (fun octet value => octet.toNat + 256 * value) 0
  | .highFirst, octets => octets.foldl (fun value octet => 256 * value + octet.toNat) 0

example : unit .lowFirst [0xac, 0x20] = 0x20ac ∧ unit .highFirst [0x20, 0xac] = 0x20ac := by decide

/-- A high half of a pair needs the low one after it. What follows a high half at the end of the
octets belongs to it. -/
def decodePairs (order : Order) : List UInt8 → List (Option Char)
  | [] => []
  | [_] => [none]
  | first :: second :: rest =>
    let code := unit order [first, second]
    if CodePoint.isHighHalf code then
      match rest with
      | third :: fourth :: others =>
        match CodePoint.pair? code (unit order [third, fourth]) with
        | some c => some c :: decodePairs order others
        | none => none :: decodePairs order (third :: fourth :: others)
      | _ => [none]
    else if CodePoint.isLowHalf code then none :: decodePairs order rest
    else some (Char.ofNat code) :: decodePairs order rest

example : decodePairs .highFirst [0xd8, 0x3d, 0xde, 0, 0, 0x61] = [some '😀', some 'a'] := by
  decide

def decodeQuadruples (order : Order) : List UInt8 → List (Option Char)
  | first :: second :: third :: fourth :: rest =>
    let code := unit order [first, second, third, fourth]
    (if code.isValidChar then some (Char.ofNat code) else none) :: decodeQuadruples order rest
  | [] => []
  | _ => [none]

/-! A byte order mark tells the order of the octets and is no part of the text. -/

def pairOrder? : List UInt8 → Option Order
  | 0xff :: 0xfe :: _ => some .lowFirst
  | 0xfe :: 0xff :: _ => some .highFirst
  | _ => none

def quadrupleOrder? : List UInt8 → Option Order
  | 0xff :: 0xfe :: 0 :: 0 :: _ => some .lowFirst
  | 0 :: 0 :: 0xfe :: 0xff :: _ => some .highFirst
  | _ => none

end ApiClient.Text.WideUnits
