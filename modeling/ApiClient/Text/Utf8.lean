import ApiClient.Text.CodePoint

/-! Reading octets as UTF-8, and writing texts as such. A sequence is refused at its first octet
that no continuation can mend, and the fault tells which octets were refused and where they stand.
-/

namespace ApiClient.Text.Utf8

inductive Reason where
  | invalidStart
  | invalidContinuation
  | unexpectedEnd
  deriving DecidableEq, Repr

/-- The octets refused: the first of them, its position and how many there are. -/
structure Fault where
  reason : Reason
  octet : UInt8
  position : Nat
  span : Nat
  deriving DecidableEq, Repr

/-! A leading octet settles its own share of the code point, how many octets follow it, and the
least and greatest value of the next one. The bounds keep out surrogates, longer forms of shorter
sequences and everything past the last code point. -/

structure Lead where
  share : Nat
  following : Nat
  least : Nat
  greatest : Nat
  deriving DecidableEq, Repr

def lead? (octet : Nat) : Option Lead :=
  if octet < 0xc2 then none
  else if octet < 0xe0 then some ⟨octet - 0xc0, 1, 0x80, 0xbf⟩
  else if octet = 0xe0 then some ⟨0, 2, 0xa0, 0xbf⟩
  else if octet = 0xed then some ⟨0xd, 2, 0x80, 0x9f⟩
  else if octet < 0xf0 then some ⟨octet - 0xe0, 2, 0x80, 0xbf⟩
  else if octet = 0xf0 then some ⟨0, 3, 0x90, 0xbf⟩
  else if octet < 0xf4 then some ⟨octet - 0xf0, 3, 0x80, 0xbf⟩
  else if octet = 0xf4 then some ⟨4, 3, 0x80, 0x8f⟩
  else none

/-- What a reader between octets has seen: nothing pending, or a sequence begun at a position and
still short of `missing` octets. -/
inductive State where
  | between
  | within (first : UInt8) (start taken value missing least greatest : Nat)
  deriving DecidableEq, Repr

/-- Characters are gathered last first. -/
def read (position : Nat) (state : State) (done : List Char) :
    List UInt8 → Except Fault (List Char)
  | [] =>
    match state with
    | .between => .ok done.reverse
    | .within first start taken _ _ _ _ => .error ⟨.unexpectedEnd, first, start, taken⟩
  | octet :: rest =>
    let value := octet.toNat
    match state with
    | .between =>
      if value < 0x80 then read (position + 1) .between (Char.ofNat value :: done) rest
      else
        match lead? value with
        | none => .error ⟨.invalidStart, octet, position, 1⟩
        | some lead =>
          read (position + 1)
            (.within octet position 1 lead.share lead.following lead.least lead.greatest) done rest
    | .within first start taken share missing least greatest =>
      if least ≤ value ∧ value ≤ greatest then
        let share := 64 * share + (value - 0x80)
        if missing ≤ 1 then read (position + 1) .between (Char.ofNat share :: done) rest
        else
          read (position + 1) (.within first start (taken + 1) share (missing - 1) 0x80 0xbf)
            done rest
      else .error ⟨.invalidContinuation, first, start, taken⟩

def decode (octets : List UInt8) : Except Fault (List Char) :=
  read 0 .between [] octets

example : decode [0x61, 0xc3, 0xa9] = .ok ['a', 'é'] := rfl

example : decode [0x61, 0xed, 0xa0, 0x80] = .error ⟨.invalidContinuation, 0xed, 1, 1⟩ := rfl

example : decode [0xe2, 0x82] = .error ⟨.unexpectedEnd, 0xe2, 0, 2⟩ := rfl

/-! ## Wording -/

def hexDigit (value : Nat) : Char :=
  Char.ofNat (if value < 10 then 0x30 + value else 0x57 + value)

/-- The two hexadecimal digits of an octet. -/
def hexOctet (octet : UInt8) : String :=
  String.ofList [hexDigit (octet.toNat / 16), hexDigit (octet.toNat % 16)]

def Reason.message : Reason → String
  | .invalidStart => "invalid start byte"
  | .invalidContinuation => "invalid continuation byte"
  | .unexpectedEnd => "unexpected end of data"

def Fault.message (fault : Fault) : String :=
  let place :=
    if fault.span ≤ 1 then
      "byte 0x" ++ hexOctet fault.octet ++ " in position " ++ toString fault.position
    else
      "bytes in position " ++ toString fault.position ++ "-" ++
        toString (fault.position + fault.span - 1)
  "'utf-8' codec can't decode " ++ place ++ ": " ++ fault.reason.message

/-- The characters of octets of which some may be refused, with nothing for each refused sequence.
-/
def characters (octets : List UInt8) : List (Option Char) :=
  go octets.length octets
where
  go : Nat → List UInt8 → List (Option Char)
    | 0, _ => []
    | bound + 1, octets =>
      match decode octets with
      | .ok text => text.map some
      | .error fault =>
        let accepted := (decode (octets.take fault.position)).toOption.getD []
        accepted.map some ++ none :: go bound (octets.drop (fault.position + fault.span))

/-- A reader that must not fail puts the replacement character for every refused sequence. -/
def decodeLossy (octets : List UInt8) : List Char :=
  (characters octets).map (·.getD (Char.ofNat 0xfffd))

/-! ## Writing

Half of a surrogate pair has no octets. -/

/-- Halves of surrogate pairs in a row: the first of them, its position and how many there are. -/
structure Unencodable where
  half : CodePoint
  position : Nat
  span : Nat
  deriving DecidableEq, Repr

/-- Octets are gathered last first. -/
def encodeFrom (position : Nat) (done : List UInt8) : Text → Except Unencodable (List UInt8)
  | [] => .ok done.reverse
  | .char c :: rest => encodeFrom (position + 1) ((String.utf8EncodeChar c).reverse ++ done) rest
  | half :: rest => .error ⟨half, position, (rest.takeWhile (·.isSurrogate)).length + 1⟩

/-- The octets of a text. -/
def encode (text : Text) : Except Unencodable (List UInt8) :=
  encodeFrom 0 [] text

example : encode "é" = .ok [0xc3, 0xa9] := rfl

/-- Half of a surrogate pair, named by its number. -/
def halfNumbered (half : CodePoint) : Text :=
  let digits := fun n => hexDigit (half.toNat / n % 16)
  "\\u" ++ ofCharacters [digits 0x1000, digits 0x100, digits 0x10, digits 1]

def Unencodable.message (fault : Unencodable) : Text :=
  let place : Text :=
    if fault.span ≤ 1 then
      " '" ++ halfNumbered fault.half ++ "' in position " ++ ofNat fault.position
    else
      "s in position " ++ ofNat fault.position ++ "-" ++ ofNat (fault.position + fault.span - 1)
  "'utf-8' codec can't encode character" ++ place ++ ": surrogates not allowed"

/-! ## Names

The system names files and variables by octets. An octet that is no part of a character stands in a
text as half of a surrogate pair, one of the 128 of them from U+DC80 on. -/

def standsForOctet (c : CodePoint) : Bool :=
  0xdc80 ≤ c.toNat && c.toNat ≤ 0xdcff

/-- The octets of a name. -/
def nameOctets (name : Text) : List UInt8 :=
  name.flatMap fun
    | .char c => String.utf8EncodeChar c
    | half => if standsForOctet half then [UInt8.ofNat (half.toNat - 0xdc00)] else []

example : nameOctets [.surrogate 0x4c3, .surrogate 0x4a9] = nameOctets "é" := by decide

/-- How many octets a name takes. -/
def size (name : Text) : Nat :=
  name.foldl (fun size c => size + (c.character?.map Char.utf8Size).getD 1) 0

def unencodableFrom (position : Nat) : Text → Option Unencodable
  | [] => none
  | c :: rest =>
    if c.isSurrogate && !standsForOctet c then
      some ⟨c, position, (rest.takeWhile (·.isSurrogate)).length + 1⟩
    else unencodableFrom (position + 1) rest

/-- The first part of a name that stands for no octets. -/
def unencodable? (name : Text) : Option Unencodable :=
  unencodableFrom 0 name

end ApiClient.Text.Utf8
