import ApiClient.Data.Calendar
import ApiClient.Data.Json.Reader
import ApiClient.Text.Quoted

/-! What keeps a text from being read as YAML. The first five kinds name the stage of reading at
which it shows; the others come from scalars whose tag promises what their text does not keep. -/

namespace ApiClient.Yaml

inductive Fault where
  | character
  | token
  | grammar
  | reference
  | construction
  | characterCode (code : Nat)
  | invalidInteger (base : Nat) (text : Text)
  | tooManyDigits (count : Nat)
  | invalidReal (text : Text)
  | wideReal
  | emptyNumber
  | invalidTruth (text : Text)
  | invalidMoment
  | momentInside
  | calendar (fault : CalendarFault)
  | endless
  deriving DecidableEq, Repr

/-- A number of more than 31 bits is not even looked at as the number of a character. -/
def isWideCode (code : Nat) : Bool :=
  code ≥ 0x80000000

/-- The wording of the faults of scalars. The other kinds are told apart without one. -/
def Fault.message : Fault → Option Text
  | .character | .token | .grammar | .reference | .construction => none
  | .characterCode code =>
    if isWideCode code then some "Python int too large to convert to C int"
    else some "chr() arg not in range(0x110000)"
  | .invalidInteger base text =>
    some ("invalid literal for int() with base " ++ Text.ofNat base ++ ": " ++
      (shown text).take 200)
  | .tooManyDigits count => some (Json.digitLimitMessage count)
  | .invalidReal text => some ("could not convert string to float: " ++ shown text)
  | .wideReal => some "int too large to convert to float"
  | .emptyNumber => some "string index out of range"
  | .invalidTruth text => some (shown text)
  | .invalidMoment => some "'NoneType' object has no attribute 'groupdict'"
  | .momentInside => some "expected string or bytes-like object, got 'list'"
  | .calendar fault => some fault.message
  | .endless => some "maximum recursion depth exceeded"

end ApiClient.Yaml
