import ApiClient.Data.Display

/-! The JSON text of a value: one line, with a blank after every comma and colon, and plain ASCII.
Only null, truth values, numbers, texts, lists and mappings have one. -/

namespace ApiClient.Json

/-- Numbers with leading digits from the fourth decimal place to the sixteenth place before the
point are written without an exponent. -/
def layout : Binary64.Layout where
  leastPositional := -4
  greatestPositional := 15
  infinity := "Infinity"
  notANumber := "NaN"

def stringText (text : Text) : Text :=
  Text.Ascii.encode text

/-- What keeps a value from being written: a part, or a key, of a kind that has no text, an integer
without a decimal form, or a collection that holds itself. -/
inductive Obstacle where
  | value (kind : Text)
  | key (kind : Text)
  | longInteger
  | circle
  deriving DecidableEq, Repr

def Obstacle.message : Obstacle → Text
  | .value kind => "Object of type " ++ kind ++ " is not JSON serializable"
  | .key kind => "keys must be str, int, float, bool or None, not " ++ kind
  | .longInteger =>
    "Exceeds the limit (" ++ Text.ofNat Value.digitLimit ++ " digits) for integer string " ++
      "conversion; use sys.set_int_max_str_digits() to increase the limit"
  | .circle => "Circular reference detected"

def integerText (value : Int) : Except Obstacle Text :=
  match Value.decimal? value with
  | some text => .ok text
  | none => .error .longInteger

/-- A key that is no text is written as the text of its scalar. -/
def keyText : Value → Except Obstacle Text
  | .text name => .ok (stringText name)
  | .null => .ok "\"null\""
  | .bool value => .ok (if value then "\"true\"" else "\"false\"")
  | .int value => do return "\"" ++ (← integerText value) ++ "\""
  | .real value => .ok ("\"" ++ layout.text value ++ "\"")
  | key => .error (.key key.fullKindName)

mutual

def text : Value → Except Obstacle Text
  | .null => .ok "null"
  | .bool value => .ok (if value then "true" else "false")
  | .int value => integerText value
  | .real value => .ok (layout.text value)
  | .text value => .ok (stringText value)
  | .list items | .tuple items => do return "[" ++ joined ", " (← itemTexts items) ++ "]"
  | .map entries => do return "\x7b" ++ joined ", " (← entryTexts entries) ++ "\x7d"
  | .cycle _ content => text content
  | .again _ _ => .error .circle
  | value => .error (.value value.kindName)

def itemTexts : List Value → Except Obstacle (List Text)
  | [] => .ok []
  | item :: rest => do
    let text ← text item
    return text :: (← itemTexts rest)

def entryTexts : List (Value × Value) → Except Obstacle (List Text)
  | [] => .ok []
  | (key, value) :: rest => do
    let name ← keyText key
    let text ← text value
    return (name ++ ": " ++ text) :: (← entryTexts rest)

end

example : (text (.list [.int 1, .text "é", .map [(.text "a", .null)]])).toOption
    = some ("[1, \"\\u00e9\", \x7b\"a\": null\x7d]" : Text) := by decide

end ApiClient.Json
