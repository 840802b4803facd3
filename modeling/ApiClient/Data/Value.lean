import ApiClient.Binary64
import ApiClient.Data.Calendar
import ApiClient.Text.CodePoint

/-! Data as the supported formats write it. JSON has the first six forms and only texts as keys;
the other forms come from formats with richer scalars. A mapping keeps its entries in the order in
which their keys first occurred.

A collection can hold itself. It is written as a cycle: inside its content, the name of the cycle
stands for the whole. -/

namespace ApiClient

/-- The forms of collections that can hold themselves. -/
inductive Shape where
  | list
  | tuple
  | map
  deriving DecidableEq, Repr

inductive Value where
  | null
  | bool (value : Bool)
  | int (value : Int)
  | real (value : Binary64)
  | text (value : Text)
  | list (items : List Value)
  | map (entries : List (Value × Value))
  | date (value : Date)
  | moment (value : Moment)
  | clock (value : Clock)
  | octets (value : List UInt8)
  | set (members : List Value)
  | tuple (items : List Value)
  | cycle (name : Nat) (content : Value)
  | again (name : Nat) (shape : Shape)
  deriving Repr, Inhabited

def Shape.kindName : Shape → Text
  | .list => "list"
  | .tuple => "tuple"
  | .map => "dict"

namespace Value

/-- The kind of a value, as messages name it. -/
def kindName : Value → Text
  | .null => "NoneType"
  | .bool _ => "bool"
  | .int _ => "int"
  | .real _ => "float"
  | .text _ => "str"
  | .list _ => "list"
  | .map _ => "dict"
  | .date _ => "date"
  | .moment _ => "datetime"
  | .clock _ => "time"
  | .octets _ => "bytes"
  | .set _ => "set"
  | .tuple _ => "tuple"
  | .cycle _ content => content.kindName
  | .again _ shape => shape.kindName

/-- The kind of a value, with the family to which it belongs. -/
def fullKindName (value : Value) : Text :=
  match value with
  | .date _ | .moment _ | .clock _ => "datetime." ++ value.kindName
  | _ => value.kindName

/-! ## Cycles

A cycle is opened by putting the whole of it wherever its name stands. Inside a further cycle, that
one keeps to its name also in what is put there. -/

def shape : Value → Shape
  | .tuple _ => .tuple
  | .map _ => .map
  | .cycle _ content => content.shape
  | .again _ shape => shape
  | _ => .list

mutual

/-- Leave only its name of a cycle. -/
def named (name : Nat) : Value → Value
  | .list items => .list (namedItems name items)
  | .tuple items => .tuple (namedItems name items)
  | .map entries => .map (namedEntries name entries)
  | .cycle inner content =>
    if inner = name then .again name content.shape else .cycle inner (named name content)
  | value => value

def namedItems (name : Nat) : List Value → List Value
  | [] => []
  | item :: rest => named name item :: namedItems name rest

def namedEntries (name : Nat) : List (Value × Value) → List (Value × Value)
  | [] => []
  | (key, value) :: rest => (key, named name value) :: namedEntries name rest

end

mutual

/-- Put the whole of a cycle wherever its name stands. -/
def closed (name : Nat) (whole : Value) : Value → Value
  | .list items => .list (closedItems name whole items)
  | .tuple items => .tuple (closedItems name whole items)
  | .map entries => .map (closedEntries name whole entries)
  | .cycle inner content => .cycle inner (closed name (named inner whole) content)
  | .again inner shape => if inner = name then whole else .again inner shape
  | value => value

def closedItems (name : Nat) (whole : Value) : List Value → List Value
  | [] => []
  | item :: rest => closed name whole item :: closedItems name whole rest

def closedEntries (name : Nat) (whole : Value) : List (Value × Value) → List (Value × Value)
  | [] => []
  | (key, value) :: rest => (key, closed name whole value) :: closedEntries name whole rest

end

/-- A value as its outermost form: what a cycle holds at its first turn. -/
def opened : Value → Value
  | .cycle name content => closed name (.cycle name content) content
  | value => value

example : (cycle 0 (.list [.again 0 .list])).opened = .list [.cycle 0 (.list [.again 0 .list])] :=
  rfl

example : (cycle 0 (.list [.cycle 1 (.list [.again 0 .list])])).opened =
    .list [.cycle 1 (.list [.cycle 0 (.list [.again 1 .list])])] := rfl

/-! ## Integers

The decimal form of an integer takes more time than its size suggests, so the longest ones are
neither read nor written. -/

/-- The greatest number of digits in the decimal form of an integer. -/
def digitLimit : Nat := 4300

/-! ## Keys

Two scalars are the same key when they are equal as numbers, as texts or as instants; truth values
count as the numbers zero and one. -/

/-- The integer that a value is, if it is a whole number or a truth value. -/
def integer? : Value → Option Int
  | .bool value => some (if value then 1 else 0)
  | .int value => some value
  | .real value => value.integer?
  | _ => none

def sameKey (a b : Value) : Bool :=
  match a.integer?, b.integer? with
  | some m, some n => m == n
  | _, _ =>
    match a, b with
    | .null, .null => true
    | .real x, .real y => x == y
    | .text s, .text t => s == t
    | .date d, .date e => d == e
    | .moment m, .moment n =>
      m.offset.isSome == n.offset.isSome && m.instant == n.instant
    | .clock x, .clock y => x == y
    | .octets x, .octets y => x == y
    | _, _ => false

/-- What counts as no data at all. -/
def isBlank : Value → Bool
  | .null | .bool false => true
  | .int value => value == 0
  | .real value => value.integer? == some 0
  | .text value => value.isEmpty
  | .list items | .tuple items | .set items => items.isEmpty
  | .map entries => entries.isEmpty
  | .octets value => value.isEmpty
  | _ => false

/-! ## Mappings -/

/-- Give a key a value: in place where the key is there, at the end where it is not. -/
def put (key value : Value) : List (Value × Value) → List (Value × Value)
  | [] => [(key, value)]
  | entry :: rest =>
    if entry.1.sameKey key then (entry.1, value) :: rest else entry :: put key value rest

/-- The value under a text key. -/
def lookup (key : Text) : List (Value × Value) → Option Value
  | [] => none
  | (.text name, value) :: rest => if name = key then some value else lookup key rest
  | _ :: rest => lookup key rest

def field? (key : Text) : Value → Option Value
  | .map entries => lookup key entries
  | _ => none

example : lookup "b" [(.text "a", .null), (.int 1, .null), (.text "b", .bool true)]
    = some (.bool true) := rfl

end Value

end ApiClient
