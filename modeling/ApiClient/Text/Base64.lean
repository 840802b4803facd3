/-! Octets written with sixty-four characters. Characters that take no part are passed over. -/

namespace ApiClient.Text.Base64

def digit? (c : Char) : Option Nat :=
  if 'A' ≤ c ∧ c ≤ 'Z' then some (c.toNat - 0x41)
  else if 'a' ≤ c ∧ c ≤ 'z' then some (c.toNat - 0x61 + 26)
  else if '0' ≤ c ∧ c ≤ '9' then some (c.toNat - 0x30 + 52)
  else if c = '+' then some 62
  else if c = '/' then some 63
  else none

/-- Every digit carries six bits. The bits that do not make an octet yet are kept, with the place in
the group of four digits and the number of padding characters just before. -/
def decodeFrom (place bits pads : Nat) : List Char → Option (List UInt8)
  | [] => if place = 0 then some [] else none
  | c :: rest =>
    if c = '=' then
      if 2 ≤ place ∧ 4 ≤ place + pads + 1 then some [] else decodeFrom place bits (pads + 1) rest
    else
      match digit? c with
      | none => decodeFrom place bits pads rest
      | some digit =>
        let bits := bits * 64 + digit
        match place with
        | 0 => decodeFrom 1 bits 0 rest
        | 1 => (UInt8.ofNat (bits / 16) :: ·) <$> decodeFrom 2 (bits % 16) 0 rest
        | 2 => (UInt8.ofNat (bits / 4) :: ·) <$> decodeFrom 3 (bits % 4) 0 rest
        | _ => (UInt8.ofNat bits :: ·) <$> decodeFrom 0 0 0 rest

/-- There are no octets if the last group of digits is incomplete and not padded. -/
def decode (text : List Char) : Option (List UInt8) :=
  decodeFrom 0 0 0 text

example : decode "aGk=".toList = some [0x68, 0x69] := by decide

example : decode "aGk".toList = none := by decide

end ApiClient.Text.Base64
