import ApiClient.Binary64.Shortest
import ApiClient.Data.Value
import ApiClient.Text.Quoted

/-! Values as messages show them. A text standing alone is itself; inside a list or a mapping it is
quoted. -/

namespace ApiClient.Value

def layout : Binary64.Layout where
  leastPositional := -4
  greatestPositional := 15
  infinity := "inf"
  notANumber := "nan"

def offsetShown (offset : Int) : Text :=
  if offset = 0 then "datetime.timezone.utc"
  else "datetime.timezone(" ++ durationShown (offset / 86400) (offset % 86400) ++ ")"

/-- The numbers of a time of day, without zeros at the end. -/
def clockNumbers (clock : Clock) : List Nat :=
  if clock.microsecond ≠ 0 then [clock.hour, clock.minute, clock.second, clock.microsecond]
  else if clock.second ≠ 0 then [clock.hour, clock.minute, clock.second]
  else [clock.hour, clock.minute]

def numbersShown (numbers : List Nat) : Text :=
  joined ", " (numbers.map Text.ofNat)

def dayNumbers (date : Date) : List Nat :=
  [date.year, date.month, date.day]

def momentShown (moment : Moment) : Text :=
  let offset : Text := (moment.offset.map fun offset => ", tzinfo=" ++ offsetShown offset).getD []
  "datetime.datetime(" ++ numbersShown (dayNumbers moment.date ++ clockNumbers moment.clock) ++
    offset ++ ")"

/-- The decimal form of an integer, unless it is too long. -/
def decimal? (number : Int) : Option Text :=
  if (Text.ofNat number.natAbs).length ≤ digitLimit then some (Text.ofInt number) else none

/-! ## Values -/

/-- A collection inside itself. -/
def ellipsis : Shape → Text
  | .list => "[...]"
  | .tuple => "(...)"
  | .map => "\x7b...\x7d"

/-- The members of a tuple. A comma follows a single one. -/
def tupleShown : List Text → Text
  | [item] => "(" ++ item ++ ",)"
  | items => "(" ++ joined ", " items ++ ")"

mutual

/-- A value as it is shown, unless an integer in it has no decimal form. -/
def shown? : Value → Option Text
  | .null => some "None"
  | .bool value => some (if value then "True" else "False")
  | .int value => decimal? value
  | .real value => some (layout.text value)
  | .text value => some (ApiClient.shown value)
  | .list items => do return "[" ++ joined ", " (← itemsShown? items) ++ "]"
  | .tuple items => tupleShown <$> itemsShown? items
  | .map entries => do return "\x7b" ++ joined ", " (← entriesShown? entries) ++ "\x7d"
  | .date value => some ("datetime.date(" ++ numbersShown (dayNumbers value) ++ ")")
  | .moment value => some (momentShown value)
  | .clock value => some ("datetime.time(" ++ numbersShown (clockNumbers value) ++ ")")
  | .octets value => some (Text.Shown.encodeOctets value)
  | .set [] => some "set()"
  | .set members => do return "\x7b" ++ joined ", " (← itemsShown? members) ++ "\x7d"
  | .cycle _ content => content.shown?
  | .again _ shape => some (ellipsis shape)

def itemsShown? : List Value → Option (List Text)
  | [] => some []
  | item :: rest => do
    let item ← item.shown?
    return item :: (← itemsShown? rest)

def entriesShown? : List (Value × Value) → Option (List Text)
  | [] => some []
  | (key, value) :: rest => do
    let key ← key.shown?
    let value ← value.shown?
    return (key ++ ": " ++ value) :: (← entriesShown? rest)

end

/-- A value as it is shown, or its kind where it cannot be. -/
def shown (value : Value) : Text :=
  value.shown?.getD ("<unprintable " ++ value.kindName ++ " object>")

/-- A value as a text of its own, unless an integer in it has no decimal form. -/
def asText? : Value → Option Text
  | .text value => some value
  | .date value => some value.text
  | .moment value => some value.text
  | .clock value => some value.text
  | value => value.shown?

end ApiClient.Value
