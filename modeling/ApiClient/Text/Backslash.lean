import ApiClient.Text.CodePoint
import ApiClient.Text.Numeral

/-! Text in which a backslash starts an escape. All other octets stand for themselves. -/

namespace ApiClient.Text.Backslash

/-- The code point with a number of so many hexadecimal digits, and what follows the digits. -/
def numbered (width : Nat) (text : List Char) : Option CodePoint × List Char :=
  let values := ((text.take width).map (Numeral.digitIn? 16)).takeWhile (·.isSome)
  let code := values.foldl (fun code value => 16 * code + value.getD 0) 0
  let isMeant := values.length = width ∧ code ≤ 0x10ffff
  (if isMeant then some (.ofNat code) else none, text.drop values.length)

example : numbered 2 "4142".toList = (some (.char 'A'), "42".toList) := by decide

example : numbered 4 "41".toList = (none, []) := by decide

/-- Up to three octal digits. -/
def octal (text : List Char) : CodePoint × List Char :=
  let values := ((text.take 3).map (Numeral.digitIn? 8)).takeWhile (·.isSome)
  (.ofNat (values.foldl (fun code value => 8 * code + value.getD 0) 0), text.drop values.length)

def plain? : Char → Option Char
  | '\\' => some '\\'
  | '\'' => some '\''
  | '"' => some '"'
  | 'a' => some '\x07'
  | 'b' => some '\x08'
  | 't' => some '\t'
  | 'n' => some '\n'
  | 'v' => some '\x0b'
  | 'f' => some '\x0c'
  | 'r' => some '\r'
  | _ => none

/-- What follows the name of a character in braces. Names are not known. -/
def afterName (text : List Char) : List Char :=
  match text with
  | '{' :: '}' :: rest => '}' :: rest
  | '{' :: rest => (rest.dropWhile (· != '}')).drop 1
  | _ => text

/-- An escape after its backslash: what it stands for, and what follows it. An unknown escape stands
for itself. -/
def escape : List Char → List (Option CodePoint) × List Char
  | [] => ([none], [])
  | '\n' :: rest => ([], rest)
  | 'x' :: rest => let (c, rest) := numbered 2 rest; ([c], rest)
  | 'u' :: rest => let (c, rest) := numbered 4 rest; ([c], rest)
  | 'U' :: rest => let (c, rest) := numbered 8 rest; ([c], rest)
  | 'N' :: rest => ([none], afterName rest)
  | c :: rest =>
    match plain? c with
    | some meant => ([some (.char meant)], rest)
    | none =>
      if (Numeral.digitIn? 8 c).isSome then
        let (c, rest) := octal (c :: rest)
        ([some c], rest)
      else ([some (.char '\\'), some (.char c)], rest)

/-- The only escapes are those by four or eight digits. -/
def rawEscape : List Char → List (Option CodePoint) × List Char
  | [] => ([some (.char '\\')], [])
  | 'u' :: rest => let (c, rest) := numbered 4 rest; ([c], rest)
  | 'U' :: rest => let (c, rest) := numbered 8 rest; ([c], rest)
  | c :: rest => ([some (.char '\\'), some (.char c)], rest)

def decodeFrom (escape : List Char → List (Option CodePoint) × List Char) :
    (fuel : Nat) → List Char → List (Option CodePoint)
  | 0, _ => []
  | _ + 1, [] => []
  | fuel + 1, '\\' :: rest =>
    let (output, rest) := escape rest
    output ++ decodeFrom escape fuel rest
  | fuel + 1, c :: rest => some (.char c) :: decodeFrom escape fuel rest

/-- An escape takes at least the backslash, so there are no more steps than octets. -/
def decodeWith (escape : List Char → List (Option CodePoint) × List Char) (octets : List UInt8) :
    List (Option CodePoint) :=
  decodeFrom escape octets.length (octets.map fun octet => Char.ofNat octet.toNat)

def decode : List UInt8 → List (Option CodePoint) :=
  decodeWith escape

def decodeRaw : List UInt8 → List (Option CodePoint) :=
  decodeWith rawEscape

example : decode [0x5c, 0x6e, 0x5c, 0x71] = ['\n', '\\', 'q'].map (some <| .char ·) := by decide

example : decodeRaw [0x5c, 0x6e] = ['\\', 'n'].map (some <| .char ·) := by decide

end ApiClient.Text.Backslash
