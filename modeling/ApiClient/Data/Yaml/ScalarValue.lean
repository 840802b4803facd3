import ApiClient.Data.Yaml.Fault
import ApiClient.Data.Yaml.Tag
import ApiClient.Data.Value
import ApiClient.Text.Base64
import ApiClient.Text.Lowercase
import ApiClient.Text.Numeral

/-! The values of texts under the tags of scalars. The tag promises a form that the text may not
have, and then there is no value. -/

namespace ApiClient.Yaml

def boolValue (text : Text) : Except Fault Value :=
  let word := Text.lowercased text
  if word = "yes" ∨ word = "true" ∨ word = "on" then .ok (.bool true)
  else if word = "no" ∨ word = "false" ∨ word = "off" then .ok (.bool false)
  else .error (.invalidTruth word)

def integerIn (base : Nat) (text : Text) : Except Fault Int :=
  match (text.characters?.map (Text.Numeral.integer Value.digitLimit base)).getD .invalid with
  | .number value => .ok value
  | .tooManyDigits count => .error (.tooManyDigits count)
  | .invalid => .error (.invalidInteger base text)

def withoutLines (text : Text) : Text :=
  text.filter fun (c : CodePoint) => c != '_'

/-- A number without its lines, and whether a minus stands before it. -/
def signed (text : Text) : Except Fault (Bool × Text) :=
  match withoutLines text with
  | [] => .error .emptyNumber
  | c :: rest => if c.isIn isSign then .ok (c == '-', rest) else .ok (false, c :: rest)

/-- The parts of a number to base sixty. -/
def sixtyParts (text : Text) : List Text :=
  Text.split (· == CodePoint.char ':') text

/-- The size of an integer, whose base shows in its first characters. -/
def integerSize (text : Text) : Except Fault Int :=
  match text with
  | [] => .error .emptyNumber
  | [.char '0'] => .ok 0
  | .char '0' :: .char 'b' :: digits => integerIn 2 digits
  | .char '0' :: .char 'x' :: digits => integerIn 16 digits
  | .char '0' :: _ => integerIn 8 text
  | _ =>
    if text.contains ':' then do
      let parts ← (sixtyParts text).mapM (integerIn 10)
      return parts.foldl (fun value part => 60 * value + part) 0
    else integerIn 10 text

def intValue (text : Text) : Except Fault Value := do
  let ⟨isNegative, size⟩ ← signed text
  let size ← integerSize size
  return .int (if isNegative then -size else size)

def realOf (text : Text) : Except Fault Binary64 :=
  match text.characters?.bind Text.Numeral.real? with
  | some value => .ok value
  | none => .error (.invalidReal text)

/-- Parts of a number to base sixty, the last part first, added up from a power of the base. The
power must not be too great itself. -/
def sixtyReal (power : Int) (sum : Binary64) : List Binary64 → Except Fault Binary64
  | [] => .ok sum
  | part :: parts =>
    match Binary64.ofInt power with
    | .infinite _ => .error .wideReal
    | weight => sixtyReal (60 * power) (sum.add (part.mul weight)) parts

def realSize (text : Text) : Except Fault Binary64 := do
  if text.contains ':' then
    let parts ← (sixtyParts text).mapM realOf
    sixtyReal 1 (Binary64.ofInt 0) parts.reverse
  else realOf text

/-- What is left of a number in small letters, and whether a minus stands before it. -/
def signedWord (text : Text) : Except Fault (Bool × Text) :=
  signed (Text.lowercased (withoutLines text))

def nanWord : Text := ".nan"

def floatValue (text : Text) : Except Fault Value := do
  let ⟨isNegative, size⟩ ← signedWord text
  let sign := Binary64.ofInt (if isNegative then -1 else 1)
  if size = nanWord then return .real .notANumber
  else if size = ".inf" then return .real (.infinite isNegative)
  else return .real (sign.mul (← realSize size))

def binaryValue (text : Text) : Except Fault Value :=
  match text.characters?.bind fun characters =>
      if characters.any (·.toNat ≥ 0x80) then none else Text.Base64.decode characters with
  | some octets => .ok (.octets octets)
  | none => .error .construction

/-- The first six digits of a fraction, as millionths. -/
def microseconds (fraction : List Char) : Nat :=
  Text.Numeral.natural ((fraction ++ List.replicate 6 '0').take 6)

def offsetOf (isNegative : Bool) (hour minute : List Char) : Int :=
  let seconds : Int := Text.Numeral.natural hour * 3600 + Text.Numeral.natural minute * 60
  if isNegative then -seconds else seconds

def momentValue (text : Text) : Except Fault Value :=
  match text.characters?.bind fun characters => momentText? (withoutFinalBreak characters) with
  | none => .error .invalidMoment
  | some moment =>
    let number := Text.Numeral.natural
    let checked : Except CalendarFault Value :=
      match moment.clock with
      | none =>
        .date <$> Date.checked (number moment.year) (number moment.month) (number moment.day)
      | some (hour, minute, second) => do
        let offset ←
          match moment.zone with
          | none => pure none
          | some none => pure (some 0)
          | some (some (isNegative, hour, minute)) =>
            some <$> checkedOffset (offsetOf isNegative hour minute)
        .moment <$> Moment.checked (number moment.year) (number moment.month) (number moment.day)
          (number hour) (number minute) (number second) (microseconds moment.fraction) offset
    checked.mapError Fault.calendar

end ApiClient.Yaml
