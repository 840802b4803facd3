import ApiClient.Text.Numeral
import ApiClient.Text.Split

/-! The written forms of network addresses. -/

namespace ApiClient.Network

/-! ## Version 4

Four numbers between dots, each from 0 to 255 and without leading zeros. -/

def greatestOctet : Nat := 255

def isOctet (text : List Char) : Bool :=
  text != [] && text.all Text.Numeral.isDigit && text.length ≤ 3 &&
    (text.length == 1 || text.head? != some '0') && Text.Numeral.natural text ≤ greatestOctet

def isVersion4 (text : List Char) : Bool :=
  let numbers := Text.split (· == '.') text
  numbers.length == 4 && numbers.all isOctet

example : isVersion4 "127.0.0.1".toList = true := by decide

example : isVersion4 "127.0.0.01".toList = false := by decide

/-- Whether a host is four numbers with dots between neighbours, so that it must be an address. -/
def isNumeric (host : List Char) : Bool :=
  let numbers := Text.split (· == '.') host
  numbers.length == 4 && numbers.all fun number => number != [] && number.all Text.Numeral.isDigit

example : isNumeric "300.0.0.1".toList = true := by decide

example : isNumeric "1.2.3".toList = false := by decide

/-! ## Version 6

Eight groups of hexadecimal digits between colons. One double colon may stand for the groups that
are missing, an address of version 4 may stand for the last two, and a zone may follow. -/

def groupCount : Nat := 8

def isHexadecimal (c : Char) : Bool :=
  (Text.Numeral.digitIn? 16 c).isSome

def isGroup (text : List Char) : Bool :=
  text != [] && text.length ≤ 4 && text.all isHexadecimal

/-- The parts between colons, with two groups in place of an address of version 4 at their end. -/
def groupsOf (text : List Char) : Option (List (List Char)) :=
  let parts := Text.split (· == ':') text
  match parts.getLast? with
  | some last =>
    if last.contains '.' then
      if isVersion4 last then some (parts.dropLast ++ [['0'], ['0']]) else none
    else some parts
  | none => some parts

/-- How many groups stand on one side of a double colon. A side without groups is one empty part. -/
def sideCount (parts : List (List Char)) : Option Nat :=
  if parts = [[]] then some 0
  else if parts.all isGroup then some parts.length
  else none

/-- Whether parts are the groups of an address. An empty part that is neither the first nor the last
comes from a double colon. -/
def areGroups : List (List Char) → Bool
  | [] => false
  | first :: others =>
    match others.dropWhile (· != []) with
    | [] :: next :: more =>
      match sideCount (first :: others.takeWhile (· != [])), sideCount (next :: more) with
      | some before, some after => before + after < groupCount
      | _, _ => false
    | _ => others.length + 1 == groupCount && (first :: others).all isGroup

/-- A zone comes after a percent sign, which occurs but once. -/
def isZone : List Char → Bool
  | [] => true
  | _ :: zone => zone != [] && !zone.contains '%'

def isVersion6 (text : List Char) : Bool :=
  isZone (text.dropWhile (· != '%')) &&
    (groupsOf (text.takeWhile (· != '%'))).any areGroups

example : isVersion6 "::1".toList = true := by decide

example : isVersion6 "fe80::1:127.0.0.1%eth0".toList = true := by decide

example : isVersion6 "1:::2".toList = false := by decide

end ApiClient.Network
