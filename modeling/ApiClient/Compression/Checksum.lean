/-! Checksums over octets: the remainder of a division of polynomials over two elements, and a pair
of running sums. -/

namespace ApiClient.Compression

/-- The coefficients of the divisor, the lowest power first. -/
def divisor : UInt32 := 0xedb88320

def remainderStep (register : UInt32) : UInt32 :=
  if register % 2 = 1 then (register >>> 1) ^^^ divisor else register >>> 1

def remainderWith (register : UInt32) (octet : UInt8) : UInt32 :=
  (List.range 8).foldl (fun register _ => remainderStep register) (register ^^^ octet.toUInt32)

def cyclicCheck (octets : List UInt8) : Nat :=
  (octets.foldl remainderWith 0xffffffff ^^^ 0xffffffff).toNat

example : cyclicCheck "123456789".toUTF8.toList = 0xcbf43926 := by decide +kernel

/-- The greatest prime number of 16 bits. -/
def sumModulus : Nat := 65521

/-- A sum of the octets, and a sum of all the sums up to there. -/
def runningCheck (octets : List UInt8) : Nat :=
  let (low, high) := octets.foldl (fun (low, high) octet =>
    let low := (low + octet.toNat) % sumModulus
    (low, (high + low) % sumModulus)) (1, 0)
  high * 0x10000 + low

example : runningCheck "abc".toUTF8.toList = 0x24d0127 := by decide +kernel

end ApiClient.Compression
