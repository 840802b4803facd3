/-! Blank characters: the white space of Unicode together with the four separators that ASCII
places among its controls. -/

namespace ApiClient.Text

def isBlank (c : Char) : Bool :=
  let code := c.toNat
  (9 ≤ code && code ≤ 13) || (0x1c ≤ code && code ≤ 0x20) || code == 0x85 || code == 0xa0 ||
    code == 0x1680 || (0x2000 ≤ code && code ≤ 0x200a) || code == 0x2028 || code == 0x2029 ||
    code == 0x202f || code == 0x205f || code == 0x3000

/-! Removing blanks, or any other class of characters, from the ends of a text. -/

def trimStart (drops : α → Bool) (text : List α) : List α :=
  text.dropWhile drops

def trimEnd (drops : α → Bool) : List α → List α
  | [] => []
  | c :: rest =>
    match trimEnd drops rest with
    | [] => if drops c then [] else [c]
    | kept => c :: kept

def trim (drops : α → Bool) (text : List α) : List α :=
  trimEnd drops (trimStart drops text)

example : trim isBlank " a b\n".toList = ['a', ' ', 'b'] := by decide

end ApiClient.Text
