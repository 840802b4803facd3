import ApiClient.Proofs.Code.IndentedLines
import Mathlib.Algebra.GroupWithZero.Nat

/-! Code in nested steps. A step puts parts of code on successive lines and indents them, with
all that was indented in them before. Indentation composes and goes over successive texts one by
one, so code has the layout that it would have if each of its texts was indented once, by the
depth at which it stands. -/

namespace ApiClient.Text

private theorem hang_zero (text : Text) : hang 0 text = text := by
  have noLead (text : Text) : lead 0 text = [] := by
    rw [lead]
    split <;> rfl
  induction text using hang.induct with
  | case1 => rfl
  | case2 rest induction => rw [hang, noLead, List.nil_append, induction]
  | case3 c rest single breaks induction =>
      rw [hang, if_pos breaks, noLead, List.nil_append, induction]
      exact single
  | case4 c rest single notBreak induction =>
      rw [hang, if_neg notBreak, induction]
      exact single

theorem indent_zero (text : Text) : indent 0 text = text := by
  rw [indent_eq, hang_zero, lead]
  split <;> rfl

/-- Indent a text several times. -/
def indentedBy (levels : List Nat) (text : Text) : Text :=
  levels.foldl (fun text level => indent level text) text

theorem indentedBy_eq (levels : List Nat) (text : Text) :
    indentedBy levels text = indent levels.sum text := by
  induction levels generalizing text with
  | nil => exact (indent_zero text).symm
  | cons level rest induction =>
      rw [indentedBy, List.foldl_cons, ← indentedBy, induction, indent_indent, List.sum_cons,
        Nat.add_comm]

end ApiClient.Text

namespace ApiClient

/-! ## Outlines -/

/-- A text as it stands, or parts on successive lines that are indented together. -/
inductive Outline where
  | plain (text : Text)
  | block (level : Nat) (parts : List Outline)

namespace Outline

mutual

/-- The code in nested steps, in which a part is indented again with every block around it. -/
def nested : Outline → Text
  | .plain text => text
  | .block level parts => Text.indent level (lines (nestedParts parts))

def nestedParts : List Outline → List Text
  | [] => []
  | part :: rest => part.nested :: nestedParts rest

end

mutual

/-- The code at once, in which every text is indented by the depth at which it stands. -/
def atOnce (depth : Nat) : Outline → Text
  | .plain text => Text.indent depth text
  | .block level parts => lines (partsAtOnce (depth + level) parts)

def partsAtOnce (depth : Nat) : List Outline → List Text
  | [] => []
  | part :: rest => part.atOnce depth :: partsAtOnce depth rest

end

example : (block 1 [plain "a", block 1 [plain "b\nc"], plain "d"]).atOnce 0 =
    "  a\n    b\n    c\n  d" := by
  decide

mutual

theorem indent_nested (depth : Nat) : (outline : Outline) →
    Text.indent depth outline.nested = outline.atOnce depth
  | .plain _ => rfl
  | .block level parts => by
      rw [nested, atOnce, Text.indent_indent, indent_lines,
        map_indent_nestedParts (depth + level) parts]

theorem map_indent_nestedParts (depth : Nat) : (parts : List Outline) →
    (nestedParts parts).map (Text.indent depth) = partsAtOnce depth parts
  | [] => rfl
  | part :: rest => by
      rw [nestedParts, partsAtOnce, List.map_cons, indent_nested depth part,
        map_indent_nestedParts depth rest]

end

private theorem nested_eq_atOnce (outline : Outline) : outline.nested = outline.atOnce 0 := by
  rw [← indent_nested, Text.indent_zero]

private theorem nestedParts_plain (texts : List Text) : nestedParts (texts.map plain) = texts := by
  induction texts with
  | nil => rfl
  | cons first rest induction => rw [List.map_cons, nestedParts, nested, induction]

end Outline

/-- Indentation in two steps, or in any number of them, is indentation by all levels together.
It goes through the line feeds between successive texts, and so through code in nested steps
down to each of its texts. -/
theorem indent_composes (text : Text) (texts : List Text) (first second : Nat) :
    Text.indent second (Text.indent first text) = Text.indent (first + second) text ∧
    (∀ levels, Text.indentedBy levels text = Text.indent levels.sum text) ∧
    Text.indent first (lines texts) = lines (texts.map (Text.indent first)) ∧
    ∀ outline : Outline, Text.indent first outline.nested = outline.atOnce first := by
  refine ⟨?_, fun levels => Text.indentedBy_eq levels text, indent_lines first texts,
    Outline.indent_nested first⟩
  rw [Text.indent_indent, Nat.add_comm]

/-! ## Classes -/

section

variable (name fields : Text) (bindings : List Text) (properties : List (Text × Node))

/-- The steps of a constructor. -/
def constructorOutline : Outline :=
  .block 0 [
    .plain "constructor(\x7b",
    .block 1 (bindings.map .plain),
    .plain "\x7d: \x7b",
    .block 1 [.plain fields],
    .plain ("\x7d" ++ constructorFallback properties ++ ") \x7b"),
    .block 1 (properties.map fun (name, _) => .plain (assignmentText name)),
    .plain "\x7d"]

/-- The steps of a class with properties. -/
def classOutline : Outline :=
  .block 0 [
    .plain ("export class " ++ name ++ " \x7b"),
    .block 1 [.plain fields],
    .plain [],
    .block 1 [constructorOutline fields bindings properties],
    .plain "\x7d"]

private theorem nested_constructorOutline :
    (constructorOutline fields bindings properties).nested =
      constructorText fields bindings properties := by
  have assignments :
      Outline.nestedParts (properties.map fun (name, _) => .plain (assignmentText name)) =
      properties.map fun (name, _) => assignmentText name := by
    rw [← Outline.nestedParts_plain (properties.map fun (name, _) => assignmentText name),
      List.map_map]
    rfl
  simp only [constructorOutline, Outline.nested, Outline.nestedParts, Text.indent_zero,
    Outline.nestedParts_plain, assignments]
  rfl

end

/-- A class has the layout that it would have if each of its texts was indented once. -/
theorem classDeclaration_atOnce {name text : Text} {properties : List (Text × Node)}
    (declared : classDeclaration name properties = .ok text) (nonempty : properties ≠ []) :
    ∃ fields bindings, renderFields none properties = .ok fields ∧
      bindingTexts properties = .ok bindings ∧
      text = (classOutline name fields bindings properties).atOnce 0 := by
  rw [classDeclaration, if_neg (by simpa using nonempty)] at declared
  obtain ⟨fields, rendered, declared⟩ := exists_of_bind_eq_ok declared
  obtain ⟨bindings, bound, declared⟩ := exists_of_bind_eq_ok declared
  refine ⟨fields, bindings, rendered, bound, ?_⟩
  rw [← Outline.nested_eq_atOnce, ← Except.ok.inj declared]
  simp only [classOutline, Outline.nested, Outline.nestedParts, Text.indent_zero,
    nested_constructorOutline]
  simp [lines, joined, indented, Text.ofString, Text.ofCharacters]

end ApiClient
