/-! Tables of code points. A table is written as text, its entries apart by blanks and its numbers
in hexadecimal, so that it can be compared with the published data line by line.

A range is `first-last`, or one number. A run is `first+count/step=target`: it maps `count` code
points, `step` apart, onto the target sequence, whose first code point moves along with them. -/

namespace ApiClient.Text

structure Range where
  first : Nat
  last : Nat
  deriving DecidableEq, Repr

structure Run where
  first : Nat
  count : Nat
  step : Nat
  target : List Nat
  deriving DecidableEq, Repr

/-! ## Reading -/

def hexadecimal (digits : List Char) : Nat :=
  digits.foldl (fun value digit =>
    16 * value + (if digit.isDigit then digit.toNat - 0x30 else digit.toNat - 0x57)) 0

/-- The parts of a text between separators, empty parts left out. -/
def parts (separates : Char → Bool) (text : List Char) : List (List Char) :=
  let close := fun (done : List (List Char)) (current : List Char) =>
    if current.isEmpty then done else current.reverse :: done
  let ⟨done, current⟩ := text.foldl (fun (state : List (List Char) × List Char) c =>
    if separates c then (close state.1 state.2, []) else (state.1, c :: state.2)) ([], [])
  (close done current).reverse

example : parts (· == ' ') " a bc ".toList = [['a'], ['b', 'c']] := by decide

def entries (text : String) : List (List Char) :=
  parts (fun c => c == ' ' || c == '\n') text.toList

def Range.ofText (text : List Char) : Range :=
  match parts (· == '-') text with
  | [first, last] => ⟨hexadecimal first, hexadecimal last⟩
  | _ => ⟨hexadecimal text, hexadecimal text⟩

def Range.listOfText (text : String) : List Range :=
  (entries text).map Range.ofText

/-- A number introduced by a mark, or one where the mark does not occur. -/
def Run.amount (mark : Char) (text : List Char) : Nat :=
  match text.dropWhile (· != mark) with
  | [] => 1
  | _ :: digits => hexadecimal (digits.takeWhile Char.isAlphanum)

def Run.ofText (text : List Char) : Run :=
  { first := hexadecimal (text.takeWhile Char.isAlphanum)
    count := amount '+' text
    step := amount '/' text
    target := (parts (· == '.') ((text.dropWhile (· != '=')).drop 1)).map hexadecimal }

def Run.listOfText (text : String) : List Run :=
  (entries text).map Run.ofText

example : Run.ofText "101+18/2=100".toList = ⟨0x101, 0x18, 2, [0x100]⟩ := by decide

/-! ## Look-up -/

def Range.contains (range : Range) (c : Char) : Bool :=
  range.first ≤ c.toNat && c.toNat ≤ range.last

/-- How far into the run a code point lies. -/
def Run.offset? (run : Run) (code : Nat) : Option Nat :=
  let offset := code - run.first
  if run.first ≤ code ∧ offset < run.count * run.step ∧ offset % run.step = 0 then some offset
  else none

def Run.imageOf? (runs : List Run) (code : Nat) : Option (List Char) :=
  runs.findSome? fun run =>
    (run.offset? code).map fun offset =>
      match run.target with
      | [] => []
      | first :: rest => Char.ofNat (first + offset) :: rest.map Char.ofNat

def Run.image? (runs : List Run) (c : Char) : Option (List Char) :=
  imageOf? runs c.toNat

end ApiClient.Text
