import ApiClient.Text.CodePoint

/-! Encodings with one octet to a character. -/

namespace ApiClient.Text

/-- Characters for the replacement of octets that have no meaning. -/
def replacement : Char := Char.ofNat 0xfffd

/-- Octets from `first` on have the characters of the table, and those below it stand for
themselves. The table has the replacement character for an octet that has no character. -/
structure CodePage where
  name : String
  aliases : List String
  first : Nat
  characters : String
  deriving DecidableEq, Repr

namespace CodePage

def ascii : CodePage :=
  ⟨"ascii", ["646", "ansi_x3.4_1968", "ansi_x3.4_1986", "ansi_x3_4_1968", "cp367", "csascii",
    "ibm367", "iso646_us", "iso_646.irv_1991", "iso_ir_6", "us", "us_ascii"], 0x80, ""⟩

/-- Every octet stands for itself. -/
def latin : CodePage :=
  ⟨"latin_1", ["8859", "cp819", "csisolatin1", "ibm819", "iso8859", "iso8859_1", "iso_8859_1",
    "iso_8859_1_1987", "iso_ir_100", "l1", "latin", "latin1"], 0x100, ""⟩

def decode (page : CodePage) (octets : List UInt8) : List (Option Char) :=
  let characters := page.characters.toList
  octets.map fun octet =>
    if octet.toNat < page.first then some (Char.ofNat octet.toNat)
    else (characters[octet.toNat - page.first]?).filter (· != replacement)

example : latin.decode [0x41, 0xe9] = [some 'A', some 'é'] := by decide

example : ascii.decode [0x41, 0xe9] = [some 'A', none] := by decide

end CodePage

end ApiClient.Text
