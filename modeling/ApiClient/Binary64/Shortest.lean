import ApiClient.Binary64

/-! The shortest decimal that reads back as a given binary64 number. The numbers that read back are
those of an interval around it, whose ends belong to it when the significand is even. On the grids
of one, two, three and more digits only the two neighbours of the number itself need a test: where
any point of a grid lies in the interval, so does one of them. -/

namespace ApiClient.Binary64

/-- A positive number, with the ends of its interval, all over one denominator. -/
structure Surroundings where
  low : Nat
  value : Nat
  high : Nat
  denominator : Nat
  closed : Bool
  deriving DecidableEq, Repr

/-- Half the gap to the next number is a quarter of a unit below a power of two, and half a unit
otherwise; over four times the unit all of it is whole. -/
def surroundings (significand : Nat) (exponent : Int) : Surroundings :=
  let below := if significand = leastFull ∧ exponent > leastExponent then 1 else 2
  let factor := powerOfTwo exponent.toNat
  { low := (4 * significand - below) * factor
    value := 4 * significand * factor
    high := (4 * significand + 2) * factor
    denominator := 4 * powerOfTwo (-exponent).toNat
    closed := significand % 2 = 0 }

/-- Whether a multiple of a power of ten reads back. -/
def Surroundings.holds (near : Surroundings) (digits : Nat) (exponent : Int) : Bool :=
  let point := digits * powerOfTen exponent.toNat * near.denominator
  let unit := powerOfTen (-exponent).toNat
  if near.closed then near.low * unit ≤ point && point ≤ near.high * unit
  else near.low * unit < point && point < near.high * unit

/-- The nearer of two neighbouring grid points that both read back; on a tie the even one. -/
def Surroundings.nearer (near : Surroundings) (digits : Nat) (exponent : Int) : Nat :=
  let twice := (2 * digits + 1) * powerOfTen exponent.toNat * near.denominator
  let value := 2 * near.value * powerOfTen (-exponent).toNat
  if value < twice ∨ (value = twice ∧ digits % 2 = 0) then digits else digits + 1

/-- The least power of ten above a positive number, as its exponent, searched upward. -/
def powerAbove (near : Surroundings) : Nat → Int → Int
  | 0, power => power
  | fuel + 1, power =>
    if near.value * powerOfTen (-power).toNat < near.denominator * powerOfTen power.toNat then power
    else powerAbove near fuel (power + 1)

/-- The digits of the grid point next below a number. -/
def Surroundings.digitsAt (near : Surroundings) (exponent : Int) : Nat :=
  near.value * powerOfTen (-exponent).toNat / (near.denominator * powerOfTen exponent.toNat)

/-- The grids from coarse to fine. Seventeen digits always suffice. -/
def onGrids (near : Surroundings) : Nat → Int → Nat × Int
  | 0, exponent => (near.digitsAt exponent, exponent)
  | fuel + 1, exponent =>
    let digits := near.digitsAt exponent
    match near.holds digits exponent, near.holds (digits + 1) exponent with
    | true, true => (near.nearer digits exponent, exponent)
    | true, false => (digits, exponent)
    | false, true => (digits + 1, exponent)
    | false, false => onGrids near fuel (exponent - 1)

/-- Digits and the exponent of ten they are multiplied by. -/
def shortest (significand : Nat) (exponent : Int) : Nat × Int :=
  let near := surroundings significand exponent
  let bits : Int := significand.log2 + exponent
  let power := powerAbove near 4 (bits * 30103 / 100000 - 1)
  onGrids near 17 (power - 1)

example : shortest leastFull (-52) = (1, 0) := by decide

example : shortest 1 (-1074) = (5, -324) := by decide +kernel

/-! ## Layout -/

/-- How a number is set out. A number whose leading digit has an exponent in the given range is
written positionally, any other with that exponent. -/
structure Layout where
  leastPositional : Int
  greatestPositional : Int
  infinity : String
  notANumber : String

def stripZeros : List Char → List Char
  | [] => []
  | c :: rest =>
    match stripZeros rest with
    | [] => if c = '0' then [] else [c]
    | kept => c :: kept

def zeros (count : Nat) : List Char :=
  List.replicate count '0'

/-- Digits with the point after the first `before` of them. At least one digit stands on either
side. -/
def positional (digits : List Char) (before : Int) : List Char :=
  match before with
  | .ofNat 0 => '0' :: '.' :: digits
  | .negSucc gap => '0' :: '.' :: zeros (gap + 1) ++ digits
  | .ofNat (count + 1) =>
    let padded := digits ++ zeros (count + 1 - digits.length)
    let fraction := padded.drop (count + 1)
    padded.take (count + 1) ++ '.' :: (if fraction.isEmpty then ['0'] else fraction)

/-- A sign and at least two digits. -/
def exponentText (exponent : Int) : List Char :=
  let digits := Nat.toDigits 10 exponent.natAbs
  (if exponent < 0 then '-' else '+') :: zeros (2 - digits.length) ++ digits

def scientific (digits : List Char) (exponent : Int) : List Char :=
  match digits with
  | [] => []
  | [digit] => digit :: 'e' :: exponentText exponent
  | digit :: rest => digit :: '.' :: rest ++ 'e' :: exponentText exponent

def Layout.magnitude (layout : Layout) (significand : Nat) (exponent : Int) : List Char :=
  if significand = 0 then ['0', '.', '0']
  else
    let ⟨value, power⟩ := shortest significand exponent
    let written := Nat.toDigits 10 value
    let digits := stripZeros written
    let leading : Int := power + written.length - 1
    if layout.leastPositional ≤ leading ∧ leading ≤ layout.greatestPositional then
      positional digits (leading + 1)
    else scientific digits leading

def Layout.text (layout : Layout) : Binary64 → String
  | .finite negative significand exponent =>
    let magnitude := layout.magnitude significand exponent
    String.ofList (if negative then '-' :: magnitude else magnitude)
  | .infinite negative => if negative then "-" ++ layout.infinity else layout.infinity
  | .notANumber => layout.notANumber

end ApiClient.Binary64
