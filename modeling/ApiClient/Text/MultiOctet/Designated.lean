import ApiClient.Text.CharacterSet.Gb2312
import ApiClient.Text.CharacterSet.KsX1001
import ApiClient.Text.MultiOctet.Japanese

/-! Encodings in which sequences of octets tell the character set of those that follow. -/

namespace ApiClient.Text.MultiOctet

/-! ## Character sets by escape sequences -/

inductive CodedSet where
  | ascii
  | roman
  | katakana
  | latin
  | greek
  | japanese
  | furtherJapanese
  | firstPlane (edition : Edition)
  | secondPlane (edition : Edition)
  | chinese
  | korean
  deriving DecidableEq, Repr

/-- The Greek letters and signs of the upper half of a code page. -/
def greekRuns : List Run := Run.listOfText "
a0=a0 a1=2018 a2=2019 a3=a3 a6+4=a6 ab+3=ab af=2015 b0+4=b0 b4+3=384 b7=b7 b8+3=388 bb=bb bc=38c
bd=bd be+14=38e d4+2b=3a4"

/-- The characters of a set for the octets of one character. Some sets give none here, as their
octets only count after an escape of their own. -/
def CodedSet.characters? : CodedSet → Nat → Nat → Option (List Char)
  | .ascii, octet, _ => some [Char.ofNat octet]
  | .roman, octet, _ =>
    some [if octet = 0x5c then '¥' else if octet = 0x7e then '‾' else Char.ofNat octet]
  | .katakana, octet, _ => (halfWidth? (octet + 0x80)).map ([·])
  | .latin, _, _ | .greek, _, _ => none
  | .japanese, first, second =>
    (CharacterSet.jisX0208.character? (first - 0x20) (second - 0x20)).map ([·])
  | .furtherJapanese, first, second =>
    (CharacterSet.jisX0212.character? (first - 0x20) (second - 0x20)).map ([·])
  | .firstPlane edition, first, second =>
    MultiOctet.firstPlane? edition (first - 0x20) (second - 0x20)
  | .secondPlane edition, first, second =>
    (MultiOctet.secondPlane? edition (first - 0x20) (second - 0x20)).map ([·])
  | .chinese, first, second =>
    (CharacterSet.gb2312.character? (first - 0x20) (second - 0x20)).map ([·])
  | .korean, first, second =>
    (CharacterSet.ksX1001.character? (first - 0x20) (second - 0x20)).map ([·])

/-- The character for an octet after an escape that is for it alone. -/
def CodedSet.upper? : CodedSet → Nat → Option Char
  | .latin, octet => if octet < 0x80 then some (Char.ofNat (octet + 0x80)) else none
  | .greek, octet =>
    if octet < 0x20 then some (Char.ofNat (octet + 0x80))
    else if octet < 0x80 then (Run.imageOf? greekRuns (octet + 0x80)).bind List.head?
    else some (Char.ofNat (octet - 0x80))
  | .ascii, octet => if octet < 0x80 then some (Char.ofNat octet) else none
  | _, _ => none

/-- What an encoding knows: sets by whether their characters take two octets and by the last octet
of the sequence that names them, and whether octets shift to the second set, escapes reach the third
set, and revisions of sets are told. -/
structure Scheme where
  sets : List ((Bool × Char) × CodedSet)
  hasShifts : Bool := false
  hasThird : Bool := false
  hasRevisions : Bool := true

structure Designation where
  first : CodedSet := .ascii
  second : CodedSet := .ascii
  third : CodedSet := .ascii
  isShifted : Bool := false
  /-- Whether octets pass as they are, in a sequence that names no set. -/
  isPassing : Bool := false
  deriving DecidableEq, Repr

/-- Which of the three sets is designated. -/
inductive Place where
  | first
  | second
  | third
  deriving DecidableEq, Repr

def Designation.set (designation : Designation) (place : Place) (set : CodedSet) : Designation :=
  match place with
  | .first => { designation with first := set }
  | .second => { designation with second := set }
  | .third => { designation with third := set }

/-- A sequence ends with a capital letter or an at sign. -/
def endsSequence (octet : UInt8) : Bool :=
  0x40 ≤ octet && octet ≤ 0x5a

/-- How long a sequence is, given how many octets are counted: zero where no end is near, and
nothing where the octets break off. Where revisions are told, one of them goes before what it
revises. -/
def sequenceLength? (hasRevisions : Bool) : (room counted : Nat) → List UInt8 → Option Nat
  | 0, _, _ => some 0
  | _ + 1, _, [] => none
  | room + 1, counted, octet :: rest =>
    if endsSequence octet then some (counted + 1)
    else if hasRevisions && octet == 0x26 && rest.head? == some 0x40 then
      match room with
      | room + 2 => sequenceLength? hasRevisions room (counted + 3) (rest.drop 2)
      | _ => some 0
    else sequenceLength? hasRevisions room (counted + 1) rest

/-- The place and the set that a sequence designates, without its escape character. -/
def Scheme.designated? (scheme : Scheme) (sequence : List UInt8) : Option (Place × CodedSet) :=
  let find := fun (isDouble : Bool) (last : UInt8) (place : Place) =>
    (scheme.sets.lookup (isDouble, Char.ofNat last.toNat)).map (place, ·)
  match sequence with
  | [0x24, last] => find true last .first
  | [0x28, last] => find false last .first
  | [0x29, last] => find false last .second
  | [0x2e, last] => if scheme.hasThird then find false last .third else none
  | [0x24, 0x28, last] => find true last .first
  | [0x24, 0x29, last] => find true last .second
  | [_, _, 0x1b, 0x24, 0x42] => if scheme.hasRevisions then find true 0x42 .first else none
  | _ => none

/-- What an escape character begins, and the designation after it. -/
def Scheme.escape (scheme : Scheme) (designation : Designation) (rest : List UInt8) :
    Head × Designation :=
  match rest with
  | [] => (.unfinished, designation)
  | next :: others =>
    if [0x28, 0x29, 0x24, 0x2e, 0x26].contains next then
      match sequenceLength? scheme.hasRevisions 15 1 rest with
      | none => (.unfinished, designation)
      | some 0 => (.meaningless 0, designation)
      | some (more + 1) =>
        match scheme.designated? (rest.take more) with
        | some (place, set) => (.characters [] more, designation.set place set)
        | none => (.meaningless more, designation)
    else if scheme.hasThird && next == 0x4e then
      match others with
      | [] => (.unfinished, designation)
      | octet :: _ =>
        match designation.third.upper? octet.toNat with
        | some c => (.characters [c] 2, designation)
        | none => (.meaningless 2, designation)
    else (.characters ['\x1b'] 0, { designation with isPassing := true })

/-- How many octets a character of a set takes. -/
def CodedSet.width : CodedSet → Nat
  | .ascii | .roman | .katakana | .latin | .greek => 1
  | _ => 2

/-- The character of the set that is designated. -/
def Designation.head (designation : Designation) (first : UInt8) (rest : List UInt8) : Head :=
  let set := if designation.isShifted then designation.second else designation.first
  let more := set.width - 1
  if rest.length < more then .unfinished
  else
    match set.characters? first.toNat ((rest.head?.map UInt8.toNat).getD 0) with
    | some characters => .characters characters more
    | none => .meaningless more

/-- What octets begin with, and the designation after it. -/
def Scheme.read (scheme : Scheme) (designation : Designation) (first : UInt8)
    (rest : List UInt8) : Head × Designation :=
  let itself := Head.characters [Char.ofNat first.toNat] 0
  if designation.isPassing then
    (itself, { designation with isPassing := !endsSequence first })
  else if first = 0x1b then scheme.escape designation rest
  else if first = 0x0a then (itself, { designation with isShifted := false })
  else if scheme.hasShifts && (first == 0x0e || first == 0x0f) then
    (.characters [] 0, { designation with isShifted := first == 0x0e })
  else if first < 0x20 then (itself, designation)
  else if 0x80 ≤ first then (.meaningless 0, designation)
  else (designation.head first rest, designation)

def Scheme.decodeFrom (scheme : Scheme) :
    (fuel : Nat) → Designation → List UInt8 → List (Option Char)
  | 0, _, _ => []
  | _ + 1, _, [] => []
  | fuel + 1, designation, first :: rest =>
    match scheme.read designation first rest with
    | (.characters characters more, designation) =>
      characters.map some ++ scheme.decodeFrom fuel designation (rest.drop more)
    | (.meaningless more, designation) =>
      none :: scheme.decodeFrom fuel designation (rest.drop more)
    | (.unfinished, _) => [none]

def Scheme.decode (scheme : Scheme) (octets : List UInt8) : List (Option Char) :=
  scheme.decodeFrom octets.length {} octets

/-! ## Schemes -/

def asciiSet : (Bool × Char) × CodedSet := ((false, 'B'), .ascii)

def romanSets : List ((Bool × Char) × CodedSet) :=
  [asciiSet, ((false, 'J'), .roman), ((true, '@'), .japanese), ((true, 'B'), .japanese)]

def iso2022Jp : Scheme := { sets := romanSets }

def iso2022Jp1 : Scheme := { sets := ((true, 'D'), .furtherJapanese) :: romanSets }

def iso2022Jp2 : Scheme :=
  { sets := [((true, 'D'), .furtherJapanese), ((true, 'C'), .korean), ((true, 'A'), .chinese),
      ((false, 'A'), .latin), ((false, 'F'), .greek)] ++ romanSets
    hasThird := true }

def iso2022Jp3 : Scheme :=
  { sets := [asciiSet, ((true, 'B'), .japanese), ((true, 'O'), .firstPlane .first),
      ((true, 'P'), .secondPlane .first)] }

def iso2022Jp2004 : Scheme :=
  { sets := [asciiSet, ((true, 'B'), .japanese), ((true, 'Q'), .firstPlane .second),
      ((true, 'P'), .secondPlane .second)] }

def iso2022JpExtended : Scheme :=
  { sets := [((false, 'I'), .katakana), ((true, 'D'), .furtherJapanese)] ++ romanSets }

def iso2022Kr : Scheme :=
  { sets := [asciiSet, ((true, 'C'), .korean)], hasShifts := true, hasRevisions := false }

example : iso2022Jp.decode [0x1b, 0x28, 0x4a, 0x5c, 0x1b, 0x28, 0x42, 0x5c] =
    [some '¥', some '\\'] := by decide

/-! ## Chinese between braces

A tilde and a brace switch from ASCII to GB 2312, and the other brace back. -/

def bracedFrom : (fuel : Nat) → (isChinese : Bool) → List UInt8 → List (Option Char)
  | 0, _, _ => []
  | _ + 1, _, [] => []
  | fuel + 1, isChinese, first :: rest =>
    if first = 0x7e then
      match rest, isChinese with
      | [], _ => [none]
      | 0x7e :: rest, false => some '~' :: bracedFrom fuel false rest
      | 0x7b :: rest, false => bracedFrom fuel true rest
      | 0x0a :: rest, false => bracedFrom fuel false rest
      | 0x7d :: rest, true => bracedFrom fuel false rest
      | rest, isChinese => none :: bracedFrom fuel isChinese rest
    else if 0x80 ≤ first then none :: bracedFrom fuel isChinese rest
    else if isChinese then
      match rest with
      | [] => [none]
      | second :: others =>
        match CharacterSet.gb2312.character? (first.toNat - 0x20) (second.toNat - 0x20) with
        | some c => some c :: bracedFrom fuel isChinese others
        | none => none :: bracedFrom fuel isChinese rest
    else some (Char.ofNat first.toNat) :: bracedFrom fuel isChinese rest

def decodeBraced (octets : List UInt8) : List (Option Char) :=
  bracedFrom octets.length false octets

end ApiClient.Text.MultiOctet
