import ApiClient.Binary64
import ApiClient.Text.Blank
import ApiClient.Text.Digit

/-! Numbers as people write them in texts: blanks around them, a sign, digits of any script, and
single underscores between digits. -/

namespace ApiClient.Text.Numeral

/-- Digits and blanks of any script in their plain form. Plain characters stay, and every other
character becomes one that no numeral contains. -/
def plain (c : Char) : Char :=
  if c.toNat < 0x7f then c
  else if isBlank c then ' '
  else
    match digitValue? c with
    | some value => Char.ofNat (0x30 + value)
    | none => '?'

def isPlainBlank (c : Char) : Bool :=
  c == ' ' || (9 ≤ c.toNat && c.toNat ≤ 13)

/-- A numeral without the blanks around it, in plain characters. -/
def core (text : List Char) : List Char :=
  trim isPlainBlank (text.map plain)

def isDigit (c : Char) : Bool :=
  '0' ≤ c && c ≤ '9'

/-- Take out underscores. Each must stand between two digits. -/
def withoutUnderscores (isDigit : Char → Bool) (previous : Option Char) :
    List Char → Option (List Char)
  | [] => if previous = some '_' then none else some []
  | c :: rest =>
    if c = '_' then
      if (previous.map isDigit).getD false then withoutUnderscores isDigit (some c) rest else none
    else if previous = some '_' ∧ !isDigit c then none
    else (withoutUnderscores isDigit (some c) rest).map (c :: ·)

def splitSign : List Char → Bool × List Char
  | '-' :: rest => (true, rest)
  | '+' :: rest => (false, rest)
  | rest => (false, rest)

def natural (digits : List Char) : Nat :=
  digits.foldl (fun value c => 10 * value + (c.toNat - 0x30)) 0

/-! ## Reals -/

/-- The value of an exponent part, zero where there is none. -/
def exponent? : List Char → Option Int
  | [] => some 0
  | mark :: rest =>
    if mark = 'e' ∨ mark = 'E' then
      let ⟨negative, digits⟩ := splitSign rest
      if digits.isEmpty ∨ !digits.all isDigit then none
      else
        let value : Int := natural digits
        some (if negative then -value else value)
    else none

def decimal? (negative : Bool) (text : List Char) : Option Binary64 :=
  let whole := text.takeWhile isDigit
  let rest := text.drop whole.length
  let ⟨fraction, rest⟩ : List Char × List Char :=
    match rest with
    | '.' :: rest => (rest.takeWhile isDigit, rest.dropWhile isDigit)
    | rest => ([], rest)
  if whole.isEmpty ∧ fraction.isEmpty then none
  else
    (exponent? rest).map fun exponent =>
      Binary64.ofDecimal negative (natural (whole ++ fraction)) (exponent - fraction.length)

def real? (text : List Char) : Option Binary64 := do
  let text ← withoutUnderscores isDigit none (core text)
  let ⟨negative, size⟩ := splitSign text
  let word := size.map Char.toLower
  if word = "inf".toList ∨ word = "infinity".toList then return .infinite negative
  else if word = "nan".toList then return .notANumber
  else decimal? negative size

example : real? " +1_0.5 ".toList = some (.finite false 5910974510923776 (-49)) := by decide +kernel

example : real? "1__0".toList = none := by decide

/-! ## Integers -/

def digitIn? (base : Nat) (c : Char) : Option Nat :=
  let value :=
    if isDigit c then c.toNat - 0x30
    else if 'a' ≤ c ∧ c ≤ 'z' then c.toNat - 0x57
    else if 'A' ≤ c ∧ c ≤ 'Z' then c.toNat - 0x37
    else base
  if value < base then some value else none

/-- The mark that may stand before the digits of a base. -/
def baseMark? : Nat → Option Char
  | 2 => some 'b'
  | 8 => some 'o'
  | 16 => some 'x'
  | _ => none

def withoutBaseMark (base : Nat) (text : List Char) : List Char :=
  match text with
  | '0' :: mark :: rest =>
    if some mark.toLower = baseMark? base then
      match rest with
      | '_' :: rest => rest
      | rest => rest
    else text
  | text => text

inductive IntegerReading where
  | number (value : Int)
  | tooManyDigits (count : Nat)
  | invalid
  deriving DecidableEq, Repr

/-- Bases that are powers of two have no limit on the number of digits. -/
def integer (digitLimit base : Nat) (text : List Char) : IntegerReading :=
  let ⟨negative, size⟩ := splitSign (core text)
  let isDigit := fun c => (digitIn? base c).isSome
  match withoutUnderscores isDigit none (withoutBaseMark base size) with
  | none | some [] => .invalid
  | some digits =>
    match digits.foldlM (fun value c => (digitIn? base c).map (base * value + ·)) 0 with
    | none => .invalid
    | some value =>
      if base = 10 ∧ digits.length > digitLimit then .tooManyDigits digits.length
      else .number (if negative then -(value : Int) else value)

example : integer 4300 16 "-0xFf".toList = .number (-255) := by decide

end ApiClient.Text.Numeral
