/-! Numbers of the binary64 format. A finite number is a signed multiple of a power of two, kept in
one normal form: the significand has 53 bits, or fewer at the least exponent. All arithmetic is
exact on natural numbers and rounds once, to the nearest number and to an even significand on a
tie. -/

namespace ApiClient

inductive Binary64 where
  | finite (negative : Bool) (significand : Nat) (exponent : Int)
  | infinite (negative : Bool)
  | notANumber
  deriving DecidableEq, Repr, Inhabited

namespace Binary64

/-! ## Powers -/

def powerOfTwo (exponent : Nat) : Nat :=
  Nat.pow 2 exponent

def powerOfTen (exponent : Nat) : Nat :=
  Nat.pow 10 exponent

/-! ## Range -/

def leastExponent : Int := -1074

def greatestExponent : Int := 971

/-- The bits of a significand after the first one. -/
def fractionSize : Nat := 52

/-- The least significand of full size. -/
def leastFull : Nat :=
  powerOfTwo fractionSize

def zero (negative : Bool) : Binary64 :=
  .finite negative 0 leastExponent

/-! ## Rounding -/

/-- The natural number nearest to a quotient, the even one of two equally near. -/
def roundedQuotient (numerator denominator : Nat) : Nat :=
  let quotient := numerator / denominator
  let twice := 2 * (numerator % denominator)
  if twice < denominator ∨ (twice = denominator ∧ quotient % 2 = 0) then quotient
  else quotient + 1

/-- A quotient divided by a power of two, as numerator and denominator. -/
def scaled (numerator denominator : Nat) (exponent : Int) : Nat × Nat :=
  match exponent with
  | .ofNat shift => (numerator, denominator * powerOfTwo shift)
  | .negSucc shift => (numerator * powerOfTwo (shift + 1), denominator)

/-- The exponent at which a positive quotient has a significand of 53 bits, or the least one. -/
def exponentOf (numerator denominator : Nat) : Int :=
  let guess : Int := numerator.log2 - denominator.log2 - fractionSize
  let ⟨high, low⟩ := scaled numerator denominator guess
  max leastExponent (if high < low * leastFull then guess - 1 else guess)

def ofQuotient (negative : Bool) (numerator denominator : Nat) : Binary64 :=
  if numerator = 0 then zero negative
  else
    let exponent := exponentOf numerator denominator
    let ⟨high, low⟩ := scaled numerator denominator exponent
    let significand := roundedQuotient high low
    let ⟨significand, exponent⟩ :=
      if significand = 2 * leastFull then (leastFull, exponent + 1) else (significand, exponent)
    if exponent > greatestExponent then .infinite negative
    else .finite negative significand exponent

/-- How many decimal digits a number has, none for zero. -/
def decimalSize (n : Nat) : Nat :=
  if n = 0 then 0 else (Nat.toDigits 10 n).length

/-- The number nearest to `digits` times a power of ten. Far outside the range of the format the
answer is known without the power. -/
def ofDecimal (negative : Bool) (digits : Nat) (exponent : Int) : Binary64 :=
  let size : Int := decimalSize digits + exponent
  if digits = 0 ∨ size < -330 then zero negative
  else if size > 310 then .infinite negative
  else
    match exponent with
    | .ofNat shift => ofQuotient negative (digits * powerOfTen shift) 1
    | .negSucc shift => ofQuotient negative digits (powerOfTen (shift + 1))

example : ofDecimal false 1 0 = .finite false leastFull (-52) := by decide

def ofInt (n : Int) : Binary64 :=
  ofQuotient (n < 0) n.natAbs 1

/-! ## Arithmetic -/

/-- A signed multiple of two powers, one of them dividing, rounded. -/
def ofMultiple (negativeZero : Bool) (multiple exponent : Int) : Binary64 :=
  let negative := if multiple = 0 then negativeZero else multiple < 0
  match exponent with
  | .ofNat shift => ofQuotient negative (multiple.natAbs * powerOfTwo shift) 1
  | .negSucc shift => ofQuotient negative multiple.natAbs (powerOfTwo (shift + 1))

def signed (negative : Bool) (significand : Nat) : Int :=
  if negative then -(significand : Int) else significand

def add : Binary64 → Binary64 → Binary64
  | .notANumber, _ | _, .notANumber => .notANumber
  | .infinite p, .infinite q => if p = q then .infinite p else .notANumber
  | .infinite p, _ => .infinite p
  | _, .infinite q => .infinite q
  | .finite p m e, .finite q n f =>
    let least := min e f
    let first := signed p (m * powerOfTwo (e - least).toNat)
    let second := signed q (n * powerOfTwo (f - least).toNat)
    ofMultiple (p && q) (first + second) least

def mul : Binary64 → Binary64 → Binary64
  | .notANumber, _ | _, .notANumber => .notANumber
  | .infinite p, .infinite q => .infinite (p != q)
  | .infinite p, .finite q n _ | .finite q n _, .infinite p =>
    if n = 0 then .notANumber else .infinite (p != q)
  | .finite p m e, .finite q n f => ofMultiple (p != q) (signed (p != q) (m * n)) (e + f)

/-! ## Comparison with integers -/

/-- The integer that a number is, if it is one. -/
def integer? : Binary64 → Option Int
  | .finite negative significand (.ofNat shift) =>
    some (signed negative (significand * powerOfTwo shift))
  | .finite negative significand (.negSucc shift) =>
    let unit := powerOfTwo (shift + 1)
    if significand % unit = 0 then some (signed negative (significand / unit)) else none
  | _ => none

end Binary64

end ApiClient
