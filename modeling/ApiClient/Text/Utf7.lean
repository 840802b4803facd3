import ApiClient.Text.Base64
import ApiClient.Text.CodePoint

/-! UTF-7: text in ASCII, where every other character stands in base 64 between a plus sign and a
hyphen, as units of UTF-16. A plus sign with a hyphen after it is just a plus sign. -/

namespace ApiClient.Text.Utf7

/-- What a reader in the midst of base 64 has seen: bits that do not make a unit yet, and a high
half that waits for the low one. -/
structure Shift where
  count : Nat := 0
  bits : Nat := 0
  high : Option Nat := none
  deriving DecidableEq, Repr

/-- Take one more unit. -/
def Shift.unit (shift : Shift) (code : Nat) : Shift × List (Option CodePoint) :=
  match shift.high.bind (CodePoint.pair? · code) with
  | some c => ({ shift with high := none }, [some c])
  | none =>
    let alone := shift.high.toList.map fun high => some (CodePoint.ofNat high)
    if CodePoint.isHighHalf code then ({ shift with high := some code }, alone)
    else ({ shift with high := none }, alone ++ [some (CodePoint.ofNat code)])

/-- Take one more digit, which carries six bits. -/
def Shift.digit (shift : Shift) (value : Nat) : Shift × List (Option CodePoint) :=
  let count := shift.count + 6
  let bits := shift.bits * 64 + value
  if count < 16 then ({ shift with count, bits }, [])
  else
    let rest := Nat.pow 2 (count - 16)
    { shift with count := count - 16, bits := bits % rest }.unit (bits / rest)

/-- Whether the bits left over are the padding of a complete unit. -/
def Shift.isComplete (shift : Shift) : Bool :=
  shift.count < 6 && shift.bits == 0

/-- Before an octet that is no digit, base 64 ends. A hyphen is dropped there, and where a unit is
not complete any octet is. -/
def decodeFrom : Option Shift → List UInt8 → List (Option CodePoint)
  | none, [] => []
  | some shift, [] => if shift.high.isSome || !shift.isComplete then [none] else []
  | none, octet :: rest =>
    if octet = 0x2b then
      match rest with
      | 0x2d :: rest => some (CodePoint.char '+') :: decodeFrom none rest
      | next :: rest =>
        match Base64.digit? (Char.ofNat next.toNat) with
        | none => none :: decodeFrom none rest
        | some value =>
          let (shift, output) := Shift.digit {} value
          output ++ decodeFrom (some shift) rest
      | [] => []
    else if octet < 0x80 then some (.char (Char.ofNat octet.toNat)) :: decodeFrom none rest
    else none :: decodeFrom none rest
  | some shift, octet :: rest =>
    match Base64.digit? (Char.ofNat octet.toNat) with
    | some value =>
      let (shift, output) := shift.digit value
      output ++ decodeFrom (some shift) rest
    | none =>
      if !shift.isComplete then none :: decodeFrom none rest
      else
        let alone := shift.high.toList.map fun high => some (CodePoint.ofNat high)
        if octet = 0x2d then alone ++ decodeFrom none rest
        else if octet < 0x80 then
          alone ++ some (.char (Char.ofNat octet.toNat)) :: decodeFrom none rest
        else none :: decodeFrom none rest

def decode (octets : List UInt8) : List (Option CodePoint) :=
  decodeFrom none octets

example : decode [0x2b, 0x41, 0x47, 0x45, 0x2d, 0x62] = [some (.char 'a'), some (.char 'b')] := by
  decide +kernel

end ApiClient.Text.Utf7
