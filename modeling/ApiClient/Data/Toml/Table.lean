import ApiClient.Data.Value

/-! Tables as statements fill them. A table can be declared once, and what was written in place
cannot be added to. -/

namespace ApiClient.Toml

abbrev Key := List String

/-- Entries under a key, which must be a table or absent. In a list of tables the last one is
meant. -/
def updateUnder (entersLists : Bool)
    (change : List (Value × Value) → Option (List (Value × Value))) :
    Key → List (Value × Value) → Option (List (Value × Value))
  | [], entries => change entries
  | name :: key, entries => do
    let changed ←
      match Value.lookup name entries with
      | none => .map <$> updateUnder entersLists change key []
      | some (.map inner) => .map <$> updateUnder entersLists change key inner
      | some (.list items) =>
        match entersLists, items.getLast? with
        | true, some (.map inner) =>
          (fun inner => .list (items.dropLast ++ [.map inner])) <$>
            updateUnder entersLists change key inner
        | _, _ => none
      | some _ => none
    return Value.put (.text name) changed entries

/-- Add an entry. Its key must not be there yet. -/
def addEntry (name : String) (value : Value) (entries : List (Value × Value)) :
    Option (List (Value × Value)) :=
  match Value.lookup name entries with
  | some _ => none
  | none => some (Value.put (.text name) value entries)

/-- Add a table to a list of tables, which is a new one if it is not there. -/
def addTable (name : String) (entries : List (Value × Value)) : Option (List (Value × Value)) :=
  match Value.lookup name entries with
  | none => some (Value.put (.text name) (.list [.map []]) entries)
  | some (.list items) => some (Value.put (.text name) (.list (items ++ [.map []])) entries)
  | some _ => none

/-! ## What may still change -/

/-- Keys of tables that have been declared, and of values written in place. -/
structure Marks where
  declared : List Key := []
  frozen : List Key := []

namespace Marks

/-- A value written in place freezes everything below it. -/
def isFrozen (marks : Marks) (key : Key) : Bool :=
  marks.frozen.any (·.isPrefixOf key)

def isDeclared (marks : Marks) (key : Key) : Bool :=
  marks.declared.contains key

def declare (marks : Marks) (key : Key) : Marks :=
  { marks with declared := key :: marks.declared }

def freeze (marks : Marks) (key : Key) : Marks :=
  { marks with frozen := key :: marks.frozen }

/-- Forget a key and everything below it. -/
def forget (marks : Marks) (key : Key) : Marks :=
  { declared := marks.declared.filter (!key.isPrefixOf ·)
    frozen := marks.frozen.filter (!key.isPrefixOf ·) }

end Marks

/-- The root table, with the table to which entries are added. Tables that dotted keys make on their
way count as declared from the next heading on. -/
structure Filling where
  entries : List (Value × Value) := []
  marks : Marks := {}
  pending : List Key := []
  heading : Key := []

def isCollection : Value → Bool
  | .list _ | .map _ => true
  | _ => false

namespace Filling

def finishPending (filling : Filling) : Filling :=
  { filling with marks := filling.pending.foldl Marks.declare filling.marks, pending := [] }

def declareTable (filling : Filling) (key : Key) : Option Filling := do
  if filling.marks.isDeclared key || filling.marks.isFrozen key then none
  else
    let entries ← updateUnder true some key filling.entries
    return { filling with entries, marks := filling.marks.declare key, heading := key }

/-- A new table in a list starts without anything declared below it. -/
def appendTable (filling : Filling) (key : Key) : Option Filling := do
  if filling.marks.isFrozen key then none
  else
    let entries ← updateUnder true (addTable (key.getLast?.getD "")) key.dropLast filling.entries
    return { filling with
      entries
      marks := (filling.marks.forget key).declare key
      heading := key }

/-- The tables between the heading and the last part of a key. -/
def between (filling : Filling) (key : Key) : List Key :=
  (List.range (key.length - 1)).map fun size => filling.heading ++ key.take (size + 1)

def assign (filling : Filling) (key : Key) (value : Value) : Option Filling := do
  let between := filling.between key
  let table := filling.heading ++ key.dropLast
  if between.any filling.marks.isDeclared || filling.marks.isFrozen table then none
  else
    let entries ← updateUnder true (addEntry (key.getLast?.getD "") value) table filling.entries
    let whole := filling.heading ++ key
    return { filling with
      entries
      pending := filling.pending ++ between
      marks := if isCollection value then filling.marks.freeze whole else filling.marks }

end Filling

end ApiClient.Toml
