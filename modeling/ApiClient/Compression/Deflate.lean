/-! Inflating compressed octets. A stream is a row of blocks, each of which holds its octets as they
are, or as words of prefix codes: words for octets, and words for repetitions of what came before. A
stream that breaks off has been inflated as far as it goes. -/

namespace ApiClient.Compression

inductive Fault where
  | header
  | method
  | window
  | flags
  | headerCheck
  | dictionary
  | blockType
  | storedSize
  | symbolCount
  | lengthCode
  | lengthRepeat
  | noEnd
  | literalLengths
  | distanceLengths
  | literalWord
  | distanceWord
  | distance
  | check
  | size
  deriving DecidableEq, Repr

def Fault.reason : Fault → Option String
  | .header => some "incorrect header check"
  | .method => some "unknown compression method"
  | .window => some "invalid window size"
  | .flags => some "unknown header flags set"
  | .headerCheck => some "header crc mismatch"
  | .dictionary => none
  | .blockType => some "invalid block type"
  | .storedSize => some "invalid stored block lengths"
  | .symbolCount => some "too many length or distance symbols"
  | .lengthCode => some "invalid code lengths set"
  | .lengthRepeat => some "invalid bit length repeat"
  | .noEnd => some "invalid code -- missing end-of-block"
  | .literalLengths => some "invalid literal/lengths set"
  | .distanceLengths => some "invalid distances set"
  | .literalWord => some "invalid literal/length code"
  | .distanceWord => some "invalid distance code"
  | .distance => some "invalid distance too far back"
  | .check => some "incorrect data check"
  | .size => some "incorrect length check"

/-- Only a dictionary that would be needed is no error of the data. -/
def Fault.message (fault : Fault) : String :=
  match fault.reason with
  | some reason => "Error -3 while decompressing data: " ++ reason
  | none => "Error 2 while decompressing data"

/-! ## Bits -/

/-- Why inflating stops before its end. -/
inductive Stop where
  | truncated
  | fault (fault : Fault)
  deriving DecidableEq, Repr

/-- The bits that are left, and the octets so far. -/
structure Progress where
  bits : List Bool
  output : Array UInt8 := #[]

abbrev Inflation := ExceptT Stop (StateM Progress)

/-- The bits of an octet, the lowest one first. -/
def bitsOf (octet : UInt8) : List Bool :=
  (List.range 8).map fun place => octet.toNat.testBit place

def fail (found : Fault) : Inflation α :=
  throw (.fault found)

def bit : Inflation Bool := do
  match (← get).bits with
  | [] => throw .truncated
  | next :: rest =>
    modify fun progress => { progress with bits := rest }
    return next

/-- A number in bits, the lowest one first. -/
def number : (size : Nat) → Inflation Nat
  | 0 => return 0
  | size + 1 => do
    let low ← bit
    return low.toNat + 2 * (← number size)

def append (octet : UInt8) : Inflation Unit :=
  modify fun progress => { progress with output := progress.output.push octet }

/-- Go on at the next octet. -/
def align : Inflation Unit :=
  modify fun progress => { progress with bits := progress.bits.drop (progress.bits.length % 8) }

/-! ## Prefix codes -/

/-- A code: how many of its words have each length, from one on, and its symbols in the order of
their words. -/
structure PrefixCode where
  counts : List Nat
  symbols : List Nat
  deriving DecidableEq, Repr

namespace PrefixCode

/-- The code whose words have these lengths, symbol by symbol. Length zero stands for no word. -/
def ofLengths (lengths : List Nat) : PrefixCode :=
  let sizes := (List.range (lengths.foldl max 0)).map (· + 1)
  { counts := sizes.map fun size => lengths.count size
    symbols := sizes.flatMap fun size =>
      (lengths.zipIdx.filter fun (length, _) => length == size).map (·.2) }

/-- How many more words of the greatest length there could be, unless there are too many already. -/
def slack? (code : PrefixCode) : Option Nat :=
  code.counts.foldlM
    (fun room count => if 2 * room < count then none else some (2 * room - count)) 1

/-- Whether every row of bits starts with a word, if there are words at all. -/
def isComplete (code : PrefixCode) : Bool :=
  code.counts.isEmpty || code.slack? == some 0

/-- A code may also have a single word, of one bit. -/
def isUsable (code : PrefixCode) : Bool :=
  code.isComplete || (code.counts.length == 1 && code.slack?.isSome)

example : (ofLengths [2, 1, 0, 2]) = ⟨[1, 2], [1, 0, 3]⟩ := by decide

example : (ofLengths [2, 1, 0, 2]).isComplete = true := by decide

end PrefixCode

/-- The symbol of the next word, given the first word of the length that is reached, and the bits so
far as a number. -/
def symbolFrom (first value : Nat) (symbols : List Nat) : List Nat → Inflation (Option Nat)
  | [] => return none
  | count :: counts => do
    let value := 2 * value + (← bit).toNat
    if value < first + count then return symbols[value - first]?
    else symbolFrom (2 * (first + count)) value (symbols.drop count) counts

/-- The symbol of the next word. A code without words takes one bit to show it. -/
def symbol? (code : PrefixCode) : Inflation (Option Nat) := do
  if code.counts.isEmpty then
    let _ ← bit
    return none
  else symbolFrom 0 0 code.symbols code.counts

/-! ## Words for octets and repetitions -/

/-- The symbol that ends a block. Those below it are octets, those above it lengths. -/
def endSymbol : Nat := 256

/-- For each symbol of a length, the least length and the number of bits to be added to it. -/
def lengthSteps : List (Nat × Nat) := [
  (3, 0), (4, 0), (5, 0), (6, 0), (7, 0), (8, 0), (9, 0), (10, 0), (11, 1), (13, 1), (15, 1),
  (17, 1), (19, 2), (23, 2), (27, 2), (31, 2), (35, 3), (43, 3), (51, 3), (59, 3), (67, 4),
  (83, 4), (99, 4), (115, 4), (131, 5), (163, 5), (195, 5), (227, 5), (258, 0)]

/-- The same for distances. -/
def distanceSteps : List (Nat × Nat) := [
  (1, 0), (2, 0), (3, 0), (4, 0), (5, 1), (7, 1), (9, 2), (13, 2), (17, 3), (25, 3), (33, 4),
  (49, 4), (65, 5), (97, 5), (129, 6), (193, 6), (257, 7), (385, 7), (513, 8), (769, 8), (1025, 9),
  (1537, 9), (2049, 10), (3073, 10), (4097, 11), (6145, 11), (8193, 12), (12289, 12), (16385, 13),
  (24577, 13)]

/-- The amount that a symbol stands for, with the bits after it. -/
def amount (steps : List (Nat × Nat)) (symbol : Nat) (unknown : Fault) : Inflation Nat :=
  match steps[symbol]? with
  | none => fail unknown
  | some (least, size) => do return least + (← number size)

/-- Repeat octets from some distance back. -/
def repeatFrom (distance : Nat) : (length : Nat) → Inflation Unit
  | 0 => return ()
  | length + 1 => do
    let output := (← get).output
    append (output[output.size - distance]?.getD 0)
    repeatFrom distance length

def repetition (distances : PrefixCode) (symbol : Nat) : Inflation Unit := do
  let length ← amount lengthSteps (symbol - endSymbol - 1) .literalWord
  match ← symbol? distances with
  | none => fail .distanceWord
  | some symbol =>
    let distance ← amount distanceSteps symbol .distanceWord
    if (← get).output.size < distance then fail .distance else repeatFrom distance length

/-- The words of a block. Each takes at least one bit. -/
def words (literals distances : PrefixCode) : (fuel : Nat) → Inflation Unit
  | 0 => throw .truncated
  | fuel + 1 => do
    match ← symbol? literals with
    | none => fail .literalWord
    | some symbol =>
      if symbol = endSymbol then return ()
      else
        if symbol < endSymbol then append (UInt8.ofNat symbol)
        else repetition distances symbol
        words literals distances fuel

/-! ## Blocks -/

/-- Octets as they are. -/
def copied : (size : Nat) → Inflation Unit
  | 0 => return ()
  | size + 1 => do
    append (UInt8.ofNat (← number 8))
    copied size

/-- A block of octets as they are. Their number is followed by its complement. -/
def storedBlock : Inflation Unit := do
  align
  let size ← number 16
  let complement ← number 16
  if size + complement = 0xffff then copied size else fail .storedSize

def fixedLiterals : PrefixCode :=
  .ofLengths (List.replicate 144 8 ++ List.replicate 112 9 ++ List.replicate 24 7 ++
    List.replicate 8 8)

def fixedDistances : PrefixCode :=
  .ofLengths (List.replicate 32 5)

/-- The order in which the lengths of words for lengths are listed. -/
def lengthOrder : List Nat := [16, 17, 18, 0, 8, 7, 9, 6, 10, 5, 11, 4, 12, 3, 13, 2, 14, 1, 15]

/-- The code for lengths, of which some are listed and the others are zero. -/
def lengthCode (count : Nat) : Inflation PrefixCode := do
  let listed ← (lengthOrder.take count).mapM fun symbol => do return (symbol, ← number 3)
  let code := PrefixCode.ofLengths ((List.range lengthOrder.length).map fun symbol =>
    (listed.lookup symbol).getD 0)
  if code.isComplete then return code else fail .lengthCode

/-- A length, and how often it comes, for a symbol of the code for lengths. -/
def lengthRun (previous : Option Nat) (symbol : Nat) : Inflation (Nat × Nat) := do
  match symbol with
  | 16 =>
    let count := 3 + (← number 2)
    match previous with
    | some length => return (length, count)
    | none => fail .lengthRepeat
  | 17 => return (0, 3 + (← number 3))
  | 18 => return (0, 11 + (← number 7))
  | length => return (length, 1)

/-- As many lengths as are wanted, the last ones first. Each word takes at least one bit. -/
def lengths (code : PrefixCode) (wanted : Nat) : (fuel : Nat) → List Nat → Inflation (List Nat)
  | 0, _ => throw .truncated
  | fuel + 1, done => do
    if done.length = wanted then return done
    else
      let symbol := (← symbol? code).getD 0
      let (length, count) ← lengthRun done.head? symbol
      if wanted < done.length + count then fail .lengthRepeat
      else lengths code wanted fuel (List.replicate count length ++ done)

/-- The codes at the start of a block that has codes of its own. -/
def ownCodes : Inflation (PrefixCode × PrefixCode) := do
  let literalCount := 257 + (← number 5)
  let distanceCount := 1 + (← number 5)
  let lengthCount := 4 + (← number 4)
  if 286 < literalCount ∨ 30 < distanceCount then fail .symbolCount
  let code ← lengthCode lengthCount
  let wanted := literalCount + distanceCount
  let lengths := (← lengths code wanted (wanted + 1) []).reverse
  if lengths[endSymbol]?.getD 0 = 0 then fail .noEnd
  let literals := PrefixCode.ofLengths (lengths.take literalCount)
  if !literals.isUsable then fail .literalLengths
  let distances := PrefixCode.ofLengths (lengths.drop literalCount)
  if !distances.isUsable then fail .distanceLengths
  return (literals, distances)

def block (fuel : Nat) : Inflation Unit := do
  match ← number 2 with
  | 0 => storedBlock
  | 1 => words fixedLiterals fixedDistances fuel
  | 2 => do
    let (literals, distances) ← ownCodes
    words literals distances fuel
  | _ => fail .blockType

/-- Blocks up to the one that is marked as the last. Each takes at least one bit. -/
def blocks (fuel : Nat) : (rest : Nat) → Inflation Unit
  | 0 => throw .truncated
  | rest + 1 => do
    let isLast ← bit
    block fuel
    if isLast then return () else blocks fuel rest

/-- The octets of a stream, with what follows its last block in the same Inflation. -/
def inflated (octets : List UInt8) (trailer : Inflation Unit) : Except Fault (List UInt8) :=
  let bits := octets.flatMap bitsOf
  let (outcome, progress) :=
    (do blocks bits.length bits.length; trailer : Inflation Unit).run.run { bits }
  match outcome with
  | .error (.fault found) => .error found
  | _ => .ok progress.output.toList

end ApiClient.Compression
