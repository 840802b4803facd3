import ApiClient.Proofs.Code.IndentedLines
import Mathlib.Data.List.Forall2

/-! Items of indented code, such as the entries of an object or the members of an
enumeration. Each stands on a line of its own, and a closing bracket ends them. A reader of
one item reads all of them. -/

namespace ApiClient.Code

/-- A reader of one item and of the space after it. -/
structure ItemReader (α : Type) where
  read : Text → Option (α × Text)
  shorter : ∀ {text item rest}, read text = some (item, rest) → rest.length < text.length

/-- An item begins on its line, and not with what closes the items. -/
def BeginsItem (text : Text) : Prop :=
  ∃ c rest, text = c :: rest ∧ c.isIn Text.isBreak = false ∧ c ≠ ' ' ∧ c ≠ '\x7d'

namespace BeginsItem

theorem append {text : Text} (begins : BeginsItem text) (more : Text) :
    BeginsItem (text ++ more) := by
  obtain ⟨c, rest, rfl, conditions⟩ := begins
  exact ⟨c, rest ++ more, rfl, conditions⟩

theorem ofIdentifier {name : Text} (identifier : isIdentifier name) : BeginsItem name := by
  obtain ⟨c, rest, rfl, part⟩ := exists_of_isIdentifier identifier
  exact ⟨c, rest, rfl, Enumeration.Reader.not_isBreak_of_isIdentifierPart part, ne_of_isIn part rfl,
    ne_of_isIn part rfl⟩

theorem propertyKey (name : Text) : BeginsItem (propertyKey name) := by
  rw [ApiClient.propertyKey]
  split
  · rename_i identifier
    exact .ofIdentifier identifier
  · exact ⟨'\'', _, rfl, rfl, by decide, by decide⟩

section

variable {text : Text} (begins : BeginsItem text) (level : Nat) (tail : Text)

include begins

private theorem hang_append : ∃ c rest, Text.hang level text ++ tail = c :: rest ∧
    ¬(c = ' ' ∨ c = '\n') ∧ c ≠ '\x7d' := by
  obtain ⟨c, rest, rfl, sameLine, notSpace, notClosing⟩ := begins
  have notLineFeed : c ≠ '\n' := by
    rintro rfl
    exact Bool.noConfusion sameLine
  exact ⟨c, _, by rw [Text.hang_cons_of_not_isBreak level _ sameLine, List.cons_append],
    not_or.mpr ⟨notSpace, notLineFeed⟩, notClosing⟩

theorem skipSpace_hang : skipSpace (Text.hang level text ++ tail) =
    Text.hang level text ++ tail := by
  obtain ⟨c, rest, same, notSpace, -⟩ := begins.hang_append level tail
  rw [same]
  exact List.dropWhile_cons_of_neg (by simpa using notSpace)

private theorem remainder?_hang : Text.remainder? "\x7d" (Text.hang level text ++ tail) = none := by
  obtain ⟨c, rest, same, -, notClosing⟩ := begins.hang_append level tail
  rw [same]
  exact if_neg (Ne.symm notClosing)

end

end BeginsItem

namespace ItemReader

variable {α β : Type}

/-- The items up to the bracket that closes them, and what follows it. -/
def all? (reader : ItemReader α) (text : Text) : Option (List α × Text) :=
  match _found : reader.read text with
  | some (item, rest) => (reader.all? rest).map fun (items, rest) => (item :: items, rest)
  | none => (Text.remainder? "\x7d" text).map ([], ·)
termination_by text.length
decreasing_by exact reader.shorter _found

/-- A text reads as an item, or as none, on indented lines and before any rest. -/
structure Reads (reader : ItemReader α) (level : Nat) (item : Option α) (text : Text) :
    Prop where
  begins : BeginsItem text
  read : ∀ tail, reader.read (Text.hang level text ++ tail) = item.map (·, skipSpace tail)

variable {reader : ItemReader α} {text rest : Text}

theorem all?_of_some {item : α} (found : reader.read text = some (item, rest)) :
    reader.all? text = (reader.all? rest).map fun (items, rest) => (item :: items, rest) := by
  rw [all?]
  split
  · rename_i other
    obtain ⟨rfl, rfl⟩ := Prod.mk.inj (Option.some.inj (found.symm.trans other))
    rfl
  · rename_i missing
    exact absurd (found.symm.trans missing) (Option.some_ne_none _)

theorem all?_of_none (missing : reader.read text = none) :
    reader.all? text = (Text.remainder? "\x7d" text).map ([], ·) := by
  rw [all?]
  split
  · rename_i found
    exact absurd (found.symm.trans missing) (Option.some_ne_none _)
  · rfl

/-- The items are read one after the other if each of them is, and there are none otherwise. -/
theorem all?_lines {level : Nat} {item : β → Option α} {values : List β} {texts : List Text}
    (each : List.Forall₂ (fun value text => reader.Reads level (item value) text) values texts)
    {closing : Text} (closes : skipSpace closing = "\x7d" ++ rest)
    (ends : reader.read ("\x7d" ++ rest) = none) :
    reader.all? (skipSpace (Text.indent level (lines texts) ++ closing)) =
      (values.mapM item).map (·, rest) := by
  rw [indent_lines]
  induction each with
  | nil =>
      change reader.all? (skipSpace closing) = _
      rw [closes, all?_of_none ends, Text.remainder?_append]
      rfl
  | @cons value text values texts first _ induction =>
      -- There is a line feed after an item unless it is the last one, and it is skipped.
      obtain ⟨tail, splits, follows⟩ : ∃ tail,
          lines ((text :: texts).map (Text.indent level)) ++ closing =
            Text.indent level text ++ tail ∧
          skipSpace tail = skipSpace (lines (texts.map (Text.indent level)) ++ closing) := by
        cases texts with
        | nil => exact ⟨closing, rfl, rfl⟩
        | cons next more =>
            exact ⟨.char '\n' :: (lines ((next :: more).map (Text.indent level)) ++ closing),
              (List.append_assoc _ _ _).trans (List.append_assoc _ _ _), rfl⟩
      have read := first.read tail
      rw [splits, Text.indent_eq, List.append_assoc, skipSpace_lead,
        first.begins.skipSpace_hang, List.mapM_cons]
      cases found : item value with
      | none =>
          rw [all?_of_none (by rw [read, found]; rfl), first.begins.remainder?_hang]
          rfl
      | some first =>
          rw [all?_of_some (read.trans (by rw [found]; rfl)), follows, induction]
          cases values.mapM item <;> rfl

/-- The items of texts that are all read. -/
theorem all?_lines_of_some {level : Nat} {item : β → α} {write : β → Text} {values : List β}
    (each : ∀ value ∈ values, reader.Reads level (some (item value)) (write value))
    {closing : Text} (closes : skipSpace closing = "\x7d" ++ rest)
    (ends : reader.read ("\x7d" ++ rest) = none) :
    reader.all? (skipSpace (Text.indent level (lines (values.map write)) ++ closing)) =
      some (values.map item, rest) := by
  have alike : List.Forall₂ (fun value text => reader.Reads level (some (item value)) text) values
      (values.map write) :=
    List.forall₂_map_right_iff.mpr (List.forall₂_same.mpr each)
  have all : values.mapM (fun value => some (item value)) = some (values.map item) :=
    List.mapM_pure
  rw [all?_lines alike closes ends, all]
  rfl

end ItemReader

end ApiClient.Code
