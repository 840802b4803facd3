import ApiClient.Text.CharacterSet.Big5
import ApiClient.Text.CharacterSet.Gb2312
import ApiClient.Text.CharacterSet.HongKong
import ApiClient.Text.MultiOctet

/-! Encodings of Chinese. -/

namespace ApiClient.Text.MultiOctet

/-! ## Simplified Chinese -/

def gb2312 : Reader :=
  withAscii (pairs fun first second => (CharacterSet.gb2312.upper? first second).map ([·]))

/-- Signs that stand between the characters of GB 2312. -/
def signRuns : List Run := Run.listOfText "
a1a4=b7 a1aa=2014 a2a1+a=2170 a6e0+2=fe35 a6e2+2=fe39 a6e4+2=fe3f a6e6+2=fe3d a6e8+4=fe41
a6ee+2=fe3b a6f0+2=fe37 a6f2=fe31 a6f4+2=fe33 a840+2=2ca a842=2d9 a843=2013 a844=2015 a845=2025
a846=2035 a847=2105 a848=2109 a849+4=2196 a84d=2215 a84e=221f a84f=2223 a850=2252 a851+2=2266
a853=22bf a854+24=2550 a878+7=2581 a880+8=2588 a888+3=2593 a88b+2=25bc a88d+4=25e2 a891=2609
a892=2295 a893=3012 a894+2=301d a8bb=251 a8bd=144 a8be=148 a8c0=261 a940+9=3021 a949=32a3
a94a+2=338e a94c+3=339c a94f=33a1 a950=33c4 a951=33ce a952+2=33d1 a954=33d5 a955=fe30 a956=ffe2
a957=ffe4 a959=2121 a95a=3231 a95c=2010 a960=30fc a961+2=309b a963+2=30fd a965=3006 a966+2=309d
a968+a=fe49 a972+4=fe54 a976+9=fe59 a980+5=fe62 a985+4=fe68 a996=3007"

/-- All ideographs without a place in a set, and some that are there for compatibility. -/
def furtherIdeographs (set : CharacterSet) : Array Nat :=
  (CharacterSet.absent set.characters 0x4e00 0x9fa5 ++ [0xf92c, 0xf979, 0xf995, 0xf9e7, 0xf9f1,
    0xfa0c, 0xfa0d, 0xfa0e, 0xfa0f, 0xfa11, 0xfa13, 0xfa14, 0xfa18, 0xfa1f, 0xfa20, 0xfa21, 0xfa23,
    0xfa24, 0xfa27, 0xfa28, 0xfa29]).toArray

/-- Second octets from 40 on, in a row without 7F. -/
def column? (second last : Nat) : Option Nat :=
  if second < 0x40 ∨ second = 0x7f ∨ last < second then none
  else some (if second < 0x7f then second - 0x40 else second - 0x41)

/-- The further ideographs come in order where GB 2312 has no places: first in rows before its own,
then in the parts of rows before its columns. -/
def furtherIdeograph? (first second : Nat) : Option Char := do
  let index ←
    if 0x81 ≤ first ∧ first ≤ 0xa0 then
      (column? second 0xfe).map fun column => (first - 0x81) * 190 + column
    else if 0xaa ≤ first ∧ first ≤ 0xfe then
      (column? second 0xa0).map fun column => 0x20 * 190 + (first - 0xaa) * 96 + column
    else none
  ((furtherIdeographs CharacterSet.gb2312)[index]?).map Char.ofNat

def gbkCharacter? (first second : Nat) : Option Char :=
  ((listed? signRuns first second).bind List.head?) <|>
    CharacterSet.gb2312.upper? first second <|> furtherIdeograph? first second

def gbk : Reader :=
  withAscii (pairs fun first second => (gbkCharacter? first second).map ([·]))

/-- Characters at places that are still free, private ones among them. -/
def lateRuns : List Run := Run.listOfText "
a2ab+6=e766 a2e3=20ac a2e4=e76d a2ef+2=e76e a2fd+2=e770 a4f4+b=e772 a5f7+8=e77d a6b9+8=e785
a6d9+7=e78d a6ec+2=e794 a6f3=e796 a6f6+9=e797 a7c2+f=e7a0 a7f2+d=e7af a896+b=e7bc a8bc=e7c7
a8bf=1f9 a8c1+4=e7c9 a8ea+15=e7cd a958=e7e2 a95b=e7e3 a95d+3=e7e4 a989=303e a98a+c=2ff0
a997+d=e7f4 a9f0+f=e801 d7fa+5=e810 fe50=2e81 fe51+3=e816 fe54=2e84 fe55=3473 fe56=3447 fe57=2e88
fe58=2e8b fe59=e81e fe5a=359e fe5b=361a fe5c=360e fe5d=2e8c fe5e=2e97 fe5f=396e fe60=3918
fe61=e826 fe62=39cf fe63=39df fe64=3a73 fe65=39d0 fe66+2=e82b fe68=3b4e fe69=3c6e fe6a=3ce0
fe6b=2ea7 fe6c+2=e831 fe6e=2eaa fe6f=4056 fe70=415f fe71=2eae fe72=4337 fe73=2eb3 fe74+2=2eb6
fe76=e83b fe77=43b1 fe78=43ac fe79=2ebb fe7a=43dd fe7b=44d6 fe7c=4661 fe7d=464c fe7e=e843
fe80=4723 fe81=4729 fe82=477c fe83=478d fe84=2eca fe85=4947 fe86=497a fe87=497d fe88+2=4982
fe8a+2=4985 fe8c=499f fe8d=499b fe8e=49b7 fe8f=49b6 fe90+2=e854 fe92=4ca3 fe93+3=4c9f fe96=4c77
fe97=4ca2 fe98+7=4d13 fe9f=4dae fea0=e864"

/-- Three areas for characters of one's own. -/
def ownCharacter? (first second : Nat) : Option Char :=
  if 0xaa ≤ first ∧ first ≤ 0xaf ∧ 0xa1 ≤ second ∧ second ≤ 0xfe then
    some (Char.ofNat (0xe000 + (first - 0xaa) * 94 + (second - 0xa1)))
  else if 0xf8 ≤ first ∧ first ≤ 0xfe ∧ 0xa1 ≤ second ∧ second ≤ 0xfe then
    some (Char.ofNat (0xe234 + (first - 0xf8) * 94 + (second - 0xa1)))
  else if 0xa1 ≤ first ∧ first ≤ 0xa7 then
    (column? second 0xa0).map fun column => Char.ofNat (0xe4c6 + (first - 0xa1) * 96 + column)
  else none

def gb18030Character? (first second : Nat) : Option Char :=
  gbkCharacter? first second <|> (listed? lateRuns first second).bind List.head? <|>
    ownCharacter? first second

/-- The code points of the first plane past ASCII that no two octets stand for, surrogates apart. -/
def otherCodePoints (character? : Nat → Nat → Option Char) : Array Nat :=
  let characters := ((List.range 0x8000).map (· + 0x8000)).filterMap fun code =>
    character? (code / 0x100) (code % 0x100)
  ((CharacterSet.absent characters 0x80 0xffff).filter (·.isValidChar)).toArray

/-- Four octets are a number with digits in turn of 126 and of ten values. -/
def quadruple? (first second third fourth : Nat) : Option Char :=
  if first < 0x81 ∨ third < 0x81 ∨ 0xfe < first ∨ 0xfe < third ∨ 0x39 < fourth ∨ fourth < 0x30 then
    none
  else
    let number := fun start : Nat =>
      (((first - start) * 10 + (second - 0x30)) * 126 + (third - 0x81)) * 10 + (fourth - 0x30)
    if first < 0x85 then ((otherCodePoints gb18030Character?)[number 0x81]?).map Char.ofNat
    else if 0x90 ≤ first ∧ number 0x90 ≤ 0xfffff then some (Char.ofNat (0x10000 + number 0x90))
    else none

/-- A digit for the second octet starts a sequence of four. -/
def gb18030 : Reader :=
  withAscii fun first rest =>
    match rest with
    | [] => .unfinished
    | second :: others =>
      if 0x30 ≤ second ∧ second ≤ 0x39 then
        match others with
        | third :: fourth :: _ =>
          match quadruple? first.toNat second.toNat third.toNat fourth.toNat with
          | some c => .characters [c] 3
          | none => .meaningless 0
        | _ => .unfinished
      else .ofCharacter (gb18030Character? first.toNat second.toNat) 1

/-! ## Traditional Chinese -/

/-- Columns of Big5 are counted from one. -/
def bigColumn (second : Nat) : Nat :=
  if 0x40 ≤ second ∧ second < 0x7f then second - 0x3f
  else if 0xa1 ≤ second then second - 0x61
  else 0

def big5Character? (first second : Nat) : Option Char :=
  CharacterSet.big5.character? first (bigColumn second)

def big5 : Reader :=
  withAscii (pairs fun first second => (big5Character? first second).map ([·]))

/-- Characters that windowed systems add to Big5, or have in place of its own. -/
def windowedRuns : List Run := Run.listOfText "
a145=2027 a14e=fe51 a1c2=af a1e3=ff5e a1f2=2295 a1f3=2299 a241=2215 a242=fe68 a244=ffe5
a246+2=ffe0 a3e1=20ac f9d6=7881 f9d7=92b9 f9d8=88cf f9d9=58bb f9da=6052 f9db=7ca7 f9dc=5afa
f9dd=2554 f9de=2566 f9df=2557 f9e0=2560 f9e1=256c f9e2=2563 f9e3=255a f9e4=2569 f9e5=255d
f9e6=2552 f9e7=2564 f9e8=2555 f9e9=255e f9ea=256a f9eb=2561 f9ec=2558 f9ed=2567 f9ee=255b
f9ef=2553 f9f0=2565 f9f1=2556 f9f2=255f f9f3=256b f9f4=2562 f9f5=2559 f9f6=2568 f9f7=255c
f9f8=2551 f9f9=2550 f9fa+2=256d f9fc=2570 f9fd=256f f9fe=2593"

def windowedBig5 : Reader :=
  withAscii (pairs fun first second =>
    listed? windowedRuns first second <|> (big5Character? first second).map ([·]))

/-- Letters with a mark above that no single character has. -/
def markedRuns : List Run := Run.listOfText "8862=ca.304 8864=ca.30c 88a3=ea.304 88a5=ea.30c"

/-- Hong Kong gives other characters to some rows of Big5. -/
def hongKong : Reader :=
  withAscii (pairs fun first second =>
    let own := (CharacterSet.hongKong.character? first (bigColumn second)).map ([·]) <|>
      listed? markedRuns first second
    if (first = 0xc6 ∧ 0xa1 ≤ second) ∨ first = 0xc7 ∨ first = 0xc8 then own
    else (big5Character? first second).map ([·]) <|> own)

end ApiClient.Text.MultiOctet
