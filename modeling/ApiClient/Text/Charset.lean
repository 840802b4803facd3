import ApiClient.Text.Backslash
import ApiClient.Text.CodePage.Dos
import ApiClient.Text.CodePage.Macintosh
import ApiClient.Text.CodePage.Mainframe
import ApiClient.Text.CodePage.National
import ApiClient.Text.CodePage.Standard
import ApiClient.Text.CodePage.Windows
import ApiClient.Text.MultiOctet.Chinese
import ApiClient.Text.MultiOctet.Designated
import ApiClient.Text.MultiOctet.Japanese
import ApiClient.Text.MultiOctet.Korean
import ApiClient.Text.Punycode
import ApiClient.Text.Split
import ApiClient.Text.Utf7
import ApiClient.Text.Utf8
import ApiClient.Text.WideUnits

/-! Encodings of text by their names. -/

namespace ApiClient.Text

/-- Why octets cannot be read as text: the name of the encoding is no text, or it names something
that makes no text of octets, is not for use, cannot pass over what has no meaning, or needs a byte
order mark, plain ASCII, or octets with a meaning that are not there. -/
inductive CharsetFault where
  | badName
  | notText
  | notOctets
  | undefined
  | notLossy
  | unmarked (bits : Nat)
  | notAscii (octet : UInt8) (position : Nat)
  | meaningless (octet : UInt8) (position : Nat)
  deriving DecidableEq, Repr

def CharsetFault.message : CharsetFault → String
  | .badName => "embedded null character"
  | .notText => ""
  | .notOctets => "descriptor 'translate' for 'str' objects doesn't apply to a 'bytes' object"
  | .undefined => "undefined encoding"
  | .notLossy => "Unsupported error handling replace"
  | .unmarked bits => "UTF-" ++ toString bits ++ " stream does not start with BOM"
  | .notAscii octet position =>
    "'ascii' codec can't decode byte 0x" ++ Utf8.hexOctet octet ++ " in position " ++
      toString position ++ ": ordinal not in range(128)"
  | .meaningless octet position =>
    "'charmap' codec can't decode byte 0x" ++ Utf8.hexOctet octet ++ " in position " ++
      toString position ++ ": character maps to <undefined>"

/-- An encoding by its names, and the characters of octets, with nothing for octets that have no
meaning. -/
structure Charset where
  name : String
  aliases : List String
  characters : List UInt8 → Except CharsetFault (List (Option Char))

namespace Charset

/-! ## Readers -/

/-- Code points as characters. The halves of a pair are one character together, and none alone. -/
def paired : List (Option CodePoint) → List (Option Char)
  | [] => []
  | some (.char c) :: rest => some c :: paired rest
  | some (.surrogate high) :: some (.surrogate low) :: rest =>
    match CodePoint.pair? (0xd800 + high) (0xd800 + low) with
    | some c => some c :: paired rest
    | none => none :: paired (some (.surrogate low) :: rest)
  | _ :: rest => none :: paired rest

example : paired [some (.surrogate 0x3d), some (.surrogate 0x600)] = [some '😀'] := by decide

/-- UTF-8 after a mark that is no part of the text. The start of a mark alone is no text either. -/
def markedUtf8 : List UInt8 → List (Option Char)
  | [0xef] | [0xef, 0xbb] => []
  | 0xef :: 0xbb :: 0xbf :: octets | octets => Utf8.characters octets

/-- Units after a mark of as many octets as they have. -/
def marked (size : Nat) (order? : List UInt8 → Option WideUnits.Order)
    (decode : WideUnits.Order → List UInt8 → List (Option Char)) (octets : List UInt8) :
    Except CharsetFault (List (Option Char)) :=
  if octets.isEmpty then .ok []
  else if octets.length < size then .ok [none]
  else
    match order? octets with
    | some order => .ok (decode order (octets.drop size))
    | none => .error (.unmarked (8 * size))

/-- What follows the last hyphen has to be ASCII. -/
def punycode (octets : List UInt8) : Except CharsetFault (List (Option Char)) :=
  let distances := (octets.reverse.takeWhile (· != 0x2d)).reverse
  match distances.findIdx? (0x80 ≤ ·) with
  | some position => .error (.notAscii (distances.getD position 0) position)
  | none =>
    let text := octets.map fun octet =>
      if octet < 0x80 then Char.ofNat octet.toNat else replacement
    .ok (paired (((Punycode.decodeWith true text).getD []).map some))

/-! ## Names -/

def ofPage (page : CodePage) : Charset :=
  ⟨page.name, page.aliases, fun octets => .ok (page.decode octets)⟩

def pages : List CodePage :=
  [.ascii, .latin, { CodePage.latin with name := "iso8859_1", aliases := [] },
    { CodePage.latin with name := "charmap", aliases := [] }] ++ CodePage.standardPages ++
    CodePage.windowsPages ++ CodePage.dosPages ++ CodePage.macintoshPages ++
    CodePage.mainframePages ++ CodePage.nationalPages

def utf8 : Charset :=
  ⟨"utf_8", ["cp65001", "u8", "utf", "utf8", "utf8_ucs2", "utf8_ucs4"], (.ok <| Utf8.characters ·)⟩

def unicode : List Charset := [
  utf8,
  ⟨"utf_8_sig", [], (.ok <| markedUtf8 ·)⟩,
  ⟨"utf_7", ["u7", "unicode_1_1_utf_7", "utf7"], (.ok <| paired <| Utf7.decode ·)⟩,
  ⟨"utf_16", ["u16", "utf16"], marked 2 WideUnits.pairOrder? WideUnits.decodePairs⟩,
  ⟨"utf_16_le", ["unicodelittleunmarked", "utf_16le"],
    (.ok <| WideUnits.decodePairs .lowFirst ·)⟩,
  ⟨"utf_16_be", ["unicodebigunmarked", "utf_16be"], (.ok <| WideUnits.decodePairs .highFirst ·)⟩,
  ⟨"utf_32", ["u32", "utf32"], marked 4 WideUnits.quadrupleOrder? WideUnits.decodeQuadruples⟩,
  ⟨"utf_32_le", ["utf_32le"], (.ok <| WideUnits.decodeQuadruples .lowFirst ·)⟩,
  ⟨"utf_32_be", ["utf_32be"], (.ok <| WideUnits.decodeQuadruples .highFirst ·)⟩,
  ⟨"unicode_escape", [], (.ok <| paired <| Backslash.decode ·)⟩,
  ⟨"raw_unicode_escape", [], (.ok <| paired <| Backslash.decodeRaw ·)⟩,
  ⟨"punycode", [], punycode⟩]

def ofReader (name : String) (aliases : List String) (read : MultiOctet.Reader) : Charset :=
  ⟨name, aliases, fun octets => .ok (MultiOctet.decode read octets)⟩

def ofScheme (name : String) (aliases : List String) (scheme : MultiOctet.Scheme) : Charset :=
  ⟨name, aliases, fun octets => .ok (scheme.decode octets)⟩

def eastAsian : List Charset := [
  ofReader "gb2312" ["chinese", "csiso58gb231280", "euc_cn", "euccn", "eucgb2312_cn", "gb2312_1980",
    "gb2312_80", "iso_ir_58", "x_mac_simp_chinese"] MultiOctet.gb2312,
  ofReader "gbk" ["936", "cp936", "ms936"] MultiOctet.gbk,
  ofReader "gb18030" ["gb18030_2000"] MultiOctet.gb18030,
  ⟨"hz", ["hz_gb", "hz_gb_2312", "hzgb"], (.ok <| MultiOctet.decodeBraced ·)⟩,
  ofReader "big5" ["big5_tw", "csbig5", "x_mac_trad_chinese"] MultiOctet.big5,
  ofReader "cp950" ["950", "ms950"] MultiOctet.windowedBig5,
  ofReader "big5hkscs" ["big5_hkscs", "hkscs"] MultiOctet.hongKong,
  ofReader "euc_kr" ["euckr", "korean", "ks_c_5601", "ks_c_5601_1987", "ks_x_1001", "ksc5601",
    "ksx1001", "x_mac_korean"] MultiOctet.euc,
  ofReader "cp949" ["949", "ms949", "uhc"] MultiOctet.unified,
  ofReader "johab" ["cp1361", "ms1361"] MultiOctet.combining,
  ofScheme "iso2022_kr" ["csiso2022kr", "iso2022kr", "iso_2022_kr"] MultiOctet.iso2022Kr,
  ofReader "shift_jis" ["csshiftjis", "s_jis", "shiftjis", "sjis", "x_mac_japanese"]
    MultiOctet.shiftJis,
  ofReader "shift_jisx0213" ["s_jisx0213", "shiftjisx0213", "sjisx0213"]
    (MultiOctet.shiftJisX0213 .first),
  ofReader "shift_jis_2004" ["s_jis_2004", "shiftjis2004", "sjis_2004"]
    (MultiOctet.shiftJisX0213 .second),
  ofReader "cp932" ["932", "ms932", "ms_kanji", "mskanji"] MultiOctet.windowedShiftJis,
  ofReader "euc_jp" ["eucjp", "u_jis", "ujis"] MultiOctet.eucJp,
  ofReader "euc_jisx0213" ["eucjisx0213"] (MultiOctet.eucJisX0213 .first),
  ofReader "euc_jis_2004" ["euc_jis2004", "eucjis2004", "jisx0213"]
    (MultiOctet.eucJisX0213 .second),
  ofScheme "iso2022_jp" ["csiso2022jp", "iso2022jp", "iso_2022_jp"] MultiOctet.iso2022Jp,
  ofScheme "iso2022_jp_1" ["iso2022jp_1", "iso_2022_jp_1"] MultiOctet.iso2022Jp1,
  ofScheme "iso2022_jp_2" ["iso2022jp_2", "iso_2022_jp_2"] MultiOctet.iso2022Jp2,
  ofScheme "iso2022_jp_3" ["iso2022jp_3", "iso_2022_jp_3"] MultiOctet.iso2022Jp3,
  ofScheme "iso2022_jp_2004" ["iso2022jp_2004", "iso_2022_jp_2004"] MultiOctet.iso2022Jp2004,
  ofScheme "iso2022_jp_ext" ["iso2022jp_ext", "iso_2022_jp_ext"] MultiOctet.iso2022JpExtended]

/-- Names under which no text is found. -/
def unsuited : List Charset :=
  let failing := fun (fault : CharsetFault) (name : String) (aliases : List String) =>
    Charset.mk name aliases fun _ => .error fault
  [failing .notText "base64_codec" ["base64", "base_64"], failing .notText "bz2_codec" ["bz2"],
    failing .notText "hex_codec" ["hex"],
    failing .notText "quopri_codec" ["quopri", "quoted_printable", "quotedprintable"],
    failing .notText "uu_codec" ["uu"], failing .notText "zlib_codec" ["zip", "zlib"],
    failing .notOctets "rot_13" ["rot13"], failing .undefined "undefined" [],
    failing .notLossy "idna" []]

def all : List Charset :=
  unicode ++ pages.map ofPage ++ eastAsian ++ unsuited

/-- A name with an underscore for punctuation inside, dots apart, and nothing for that at its ends.
-/
def normalName (name : List Char) : String :=
  let words := split (fun c => !(c.isAlphanum || c == '.')) (name.map Char.toLower)
  String.ofList (unsplit '_' (words.filter (!·.isEmpty)))

example : normalName "-Latin--1-".toList = "latin_1" := by decide +kernel

/-- An alias is known with dots for underscores, too. -/
def named? (name : List Char) : Option Charset :=
  let name := normalName name
  let plain := name.map fun c => if c == '.' then '_' else c
  all.find? fun charset =>
    charset.aliases.contains name || charset.aliases.contains plain || charset.name == name

/-- The text of octets, with the replacement character for what has no meaning. -/
def decode (charset : Charset) (octets : List UInt8) : Except CharsetFault (List Char) :=
  (charset.characters octets).map (·.map (·.getD replacement))

/-- The text of octets of which all have a meaning. -/
def read (charset : Charset) (octets : List UInt8) : Except CharsetFault (List Char) := do
  let characters ← charset.characters octets
  match characters.findIdx? (·.isNone) with
  | none => return characters.filterMap id
  | some position =>
    let octet := octets.getD position 0
    if charset.name = CodePage.ascii.name then throw (.notAscii octet position)
    else throw (.meaningless octet position)

example : (ofPage .latin).read [0xe9] = .ok ['é'] := rfl

end Charset

end ApiClient.Text
