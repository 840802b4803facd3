import ApiClient.Text.CodePoint
import ApiClient.Text.Printable
import ApiClient.Text.Utf8

/-! Quoting a text so that its characters can be told apart: the single-quoted form of generated
code, the form in which messages show a text, and the form of JSON, which is plain ASCII. -/

namespace ApiClient.Text

/-! ## Single-quoted literals

A backslash stands before a backslash, a quote, and the letters that name the two line ends; every
other character stands for itself. -/

namespace Literal

def escape : CodePoint → Text
  | .char '\\' => "\\\\"
  | .char '\'' => "\\'"
  | .char '\n' => "\\n"
  | .char '\r' => "\\r"
  | c => [c]

def body (text : Text) : Text :=
  text.flatMap escape

def encode (text : Text) : Text :=
  "'" ++ body text ++ "'"

example : encode "it's\n" = "'it\\'s\\n'" := by decide

end Literal

/-! ## Texts shown in messages

Single quotes unless the text holds one and no double quote. -/

namespace Shown

/-- The last `width` hexadecimal digits of a number. -/
def hexadecimals : (width value : Nat) → List Char
  | 0, _ => []
  | width + 1, value => hexadecimals width (value / 16) ++ [Utf8.hexDigit (value % 16)]

/-- A code point named by its number. -/
def numbered (code : Nat) : List Char :=
  if code < 0x100 then '\\' :: 'x' :: hexadecimals 2 code
  else if code < 0x10000 then '\\' :: 'u' :: hexadecimals 4 code
  else '\\' :: 'U' :: hexadecimals 8 code

def escape (quote c : Char) : List Char :=
  if c = quote ∨ c = '\\' then ['\\', c]
  else if c = '\n' then ['\\', 'n']
  else if c = '\r' then ['\\', 'r']
  else if c = '\t' then ['\\', 't']
  else if isPrintable c then [c]
  else numbered c.toNat

def escapeCodePoint (quote : Char) : CodePoint → Text
  | .char c => ofCharacters (escape quote c)
  | half => ofCharacters (numbered half.toNat)

/-- The mark on both sides of what is shown. -/
def quoteFor (holdsSingle holdsDouble : Bool) : Char :=
  if holdsSingle && !holdsDouble then '"' else '\''

def encode (text : Text) : Text :=
  let quote := quoteFor (text.contains '\'') (text.contains '"')
  [.char quote] ++ text.flatMap (escapeCodePoint quote) ++ [.char quote]

example : encode "it's" = "\"it's\"" := by decide

/-- Octets are shown as the ASCII text they would be. -/
def escapeOctet (quote : Char) (octet : UInt8) : List Char :=
  let c := Char.ofNat octet.toNat
  if c = quote ∨ c = '\\' then ['\\', c]
  else if c = '\n' then ['\\', 'n']
  else if c = '\r' then ['\\', 'r']
  else if c = '\t' then ['\\', 't']
  else if 0x20 ≤ octet.toNat ∧ octet.toNat < 0x7f then [c]
  else '\\' :: 'x' :: hexadecimals 2 octet.toNat

def encodeOctets (octets : List UInt8) : Text :=
  let quote := quoteFor (octets.contains 0x27) (octets.contains 0x22)
  ofCharacters ('b' :: quote :: octets.flatMap (escapeOctet quote) ++ [quote])

end Shown

/-! ## JSON strings -/

namespace Ascii

/-- A UTF-16 unit named by its number. -/
def unit (value : Nat) : List Char :=
  '\\' :: 'u' :: Shown.hexadecimals 4 value

def escape : CodePoint → List Char
  | .char '"' => ['\\', '"']
  | .char '\\' => ['\\', '\\']
  | .char '\n' => ['\\', 'n']
  | .char '\r' => ['\\', 'r']
  | .char '\t' => ['\\', 't']
  | .char '\x08' => ['\\', 'b']
  | .char '\x0c' => ['\\', 'f']
  | .char c =>
    let code := c.toNat
    if 0x20 ≤ code ∧ code < 0x7f then [c]
    else if code < 0x10000 then unit code
    else
      let offset := code - 0x10000
      unit (0xd800 + offset / 0x400) ++ unit (0xdc00 + offset % 0x400)
  | half => unit half.toNat

def encode (text : Text) : Text :=
  "\"" ++ ofCharacters (text.flatMap escape) ++ "\""

end Ascii

end ApiClient.Text

namespace ApiClient

/-- A text as a single-quoted literal of generated code. -/
def quoted (text : Text) : Text :=
  Text.Literal.encode text

/-- A text as messages show it. -/
def shown (text : Text) : Text :=
  Text.Shown.encode text

end ApiClient
