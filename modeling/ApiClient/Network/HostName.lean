import ApiClient.Network.HostName.Context
import ApiClient.Network.HostName.Direction
import ApiClient.Text.Punycode
import ApiClient.Text.Lowercase
import ApiClient.Text.Split

/-! Host names with characters past ASCII. Each label is checked, and one that is not ASCII is
replaced by its Punycode form. -/

namespace ApiClient.Network.HostName

/-- Every character that parts two labels. -/
def isDot (c : Char) : Bool :=
  c == '.' || c.toNat == 0x3002 || c.toNat == 0xff0e || c.toNat == 0xff61

/-- The greatest length of a label, and of a name without the dot at its end. -/
def greatestLabelLength : Nat := 63

def greatestLength : Nat := 253

/-- Hyphens neither begin nor end a label, nor do two of them follow its second character. -/
def hasMisplacedHyphen (label : List Char) : Bool :=
  label.head? == some '-' || label.getLast? == some '-' || (label.drop 2).take 2 == ['-', '-']

def isAscii (text : List Char) : Bool :=
  text.all (·.toNat < 0x80)

/-- The mark of labels in Punycode. -/
def punycodeMark : List Char := "xn--".toList

def isPunycode (label : List Char) : Bool :=
  punycodeMark.isPrefixOf label

/-- Whether a label is in composed form and follows all rules. -/
def isLabel (label : List Char) : Bool :=
  label != [] && Text.composed label == label && !hasMisplacedHyphen label &&
    !label.head?.any isCombiner && allFit label [] label && areDirectionsFine label

/-- Whether what follows the mark of a label in Punycode stands for a label. -/
def isEncodedLabel (encoded : List Char) : Bool :=
  encoded != [] && encoded.getLast? != some '-' &&
    ((Text.Punycode.decode? encoded).bind Text.characters?).any isLabel

def encodeLabel (label : List Char) : Option (List Char) :=
  let ascii := if isAscii label then label else punycodeMark ++ Text.Punycode.encode label
  let isFine :=
    if isPunycode label ∧ isAscii label then isEncodedLabel (label.drop punycodeMark.length)
    else isLabel label
  if isFine ∧ ascii.length ≤ greatestLabelLength then some ascii else none

/-- The ASCII form of a name, if it has one. A dot may end the name. -/
def encode (name : List Char) : Option (List Char) := do
  let name ← (Text.lowercased (Text.ofCharacters name)).characters?
  let labels := Text.split isDot name
  let endsInDot := labels.getLast? == some []
  let named := if endsInDot then labels.dropLast else labels
  match named.mapM encodeLabel with
  | none | some [] => none
  | some encoded =>
    let ascii := Text.unsplit '.' encoded
    if greatestLength < ascii.length then none
    else some (if endsInDot then ascii ++ ['.'] else ascii)

end ApiClient.Network.HostName
