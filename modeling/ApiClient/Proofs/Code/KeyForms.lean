import ApiClient.Proofs.Code.Identifiers
import Mathlib.Logic.Function.Basic

/-! Literals and keys as forms of what they stand for. A literal is read back to its text,
so two texts never have the same literal. A key without quotes does not begin like a
literal, so two names never have the same key, and two members of an object are never
selected in the same way. -/

namespace ApiClient.Text

/-! ## Escapes one after the other -/

private theorem replaceAll_single {α : Type} [DecidableEq α] (first : α)
    (replacement text : List α) :
    replaceAll first [] replacement text =
      text.flatMap fun c => if c = first then replacement else [c] := by
  induction text with
  | nil =>
      rw [replaceAll]
      rfl
  | cons c rest induction =>
      rw [List.flatMap_cons, ← induction]
      by_cases isFirst : c = first
      · subst isFirst
        rw [if_pos rfl]
        exact replaceAll_of_some rfl
      · rw [if_neg isFirst]
        exact replaceAll_of_ne isFirst

namespace Literal

/-- A replacement in the whole text for each of the four signs. The backslash comes first, since
the others put in new ones. -/
def escapedInTurn (text : Text) : Text :=
  let text := replaceAll (.char '\\') [] "\\\\" text
  let text := replaceAll (.char '\'') [] "\\'" text
  let text := replaceAll (.char '\n') [] "\\n" text
  replaceAll (.char '\r') [] "\\r" text

private theorem body_eq_escapedInTurn (text : Text) : body text = escapedInTurn text := by
  simp only [body, escapedInTurn, replaceAll_single, List.flatMap_assoc]
  congr
  funext c
  unfold escape
  split
  · decide
  · decide
  · decide
  · decide
  · rename_i backslash quote lineFeed carriageReturn
    have others : c ≠ '\\' ∧ c ≠ '\'' ∧ c ≠ '\n' ∧ c ≠ '\r' :=
      ⟨backslash, quote, lineFeed, carriageReturn⟩
    simp [others]

end Literal

end ApiClient.Text

namespace ApiClient.Code

/-! ## Literals -/

/-- What stands between the quotes of a literal, and the text as which it is read. -/
structure StandsFor (body text : Text) : Prop where
  sameLine : ∀ c ∈ body, ¬Scanner.endsLine c
  quotesEscaped : ∀ before after, body = before ++ .char '\'' :: after →
    ∃ read, before.foldl Quotation.step (.inside []) = .escaped read
  reads : body.foldl Quotation.step (.inside []) = .inside text

namespace Quotation

private theorem step_of_endsLine {c : CodePoint} (ends : Scanner.endsLine c) (literal : Quotation) :
    literal.step c = .broken := by
  cases literal with
  | complete _ | broken => rfl
  | inside _ | escaped _ => rcases ends with rfl | rfl <;> rfl

/-- After its end a literal goes on with nothing that could be read. -/
theorem foldl_step_complete_ne (read text after : Text) :
    after.foldl step (.complete read) ≠ .inside text := by
  cases after with
  | nil => exact Quotation.noConfusion
  | cons c after => exact fun same =>
      Quotation.noConfusion ((foldl_step_broken after).symm.trans same)

end Quotation

private theorem standsFor_of_reads {body text : Text}
    (reads : body.foldl Quotation.step (.inside []) = .inside text) : StandsFor body text := by
  refine ⟨fun c member ends => ?_, fun before after parts => ?_, reads⟩
  · obtain ⟨before, after, rfl⟩ := List.append_of_mem member
    rw [List.foldl_append, List.foldl_cons, Quotation.step_of_endsLine ends,
      Quotation.foldl_step_broken] at reads
    exact Quotation.noConfusion reads
  · rw [parts, List.foldl_append, List.foldl_cons] at reads
    -- A quote ends the literal, or breaks what is no literal any more, unless it is escaped.
    cases atQuote : before.foldl Quotation.step (.inside []) with
    | escaped read => exact ⟨read, rfl⟩
    | inside read =>
        rw [atQuote] at reads
        exact absurd reads (Quotation.foldl_step_complete_ne read text after)
    | complete _ | broken =>
        rw [atQuote] at reads
        exact Quotation.noConfusion ((Quotation.foldl_step_broken after).symm.trans reads)

theorem quoted_injective : Function.Injective quoted := by
  intro text other same
  rw [quoted, quoted, Text.Literal.encode, Text.Literal.encode, List.append_left_inj,
    List.append_right_inj] at same
  have reads := Quotation.read_body [] text
  rw [same, Quotation.read_body] at reads
  exact (Quotation.inside.inj reads).symm

/-! ## Keys and members -/

private theorem quoted_ne_of_isIdentifier {name : Text} (identifier : isIdentifier name)
    (other : Text) :
    quoted other ≠ name := by
  obtain ⟨c, rest, rfl, part⟩ := exists_of_isIdentifier identifier
  intro same
  obtain ⟨rfl, -⟩ := List.cons.inj same
  exact Bool.noConfusion part

private theorem propertyKey_injective : Function.Injective propertyKey := by
  intro name other same
  rw [propertyKey, propertyKey] at same
  split at same <;> split at same
  · exact same
  · rename_i identifier _
    exact absurd same.symm (quoted_ne_of_isIdentifier identifier other)
  · rename_i _ identifier
    exact absurd same (quoted_ne_of_isIdentifier identifier name)
  · exact quoted_injective same

private theorem selector_injective : Function.Injective selector := by
  intro name other same
  rw [selector, selector] at same
  split at same <;> split at same
  · exact List.append_cancel_left same
  · exact absurd (List.cons.inj same).1 (by decide)
  · exact absurd (List.cons.inj same).1 (by decide)
  · exact quoted_injective (List.append_cancel_right (List.append_cancel_left same))

/-- A literal is a body between quotes, in which the four signs are escaped one after the other.
The body stays on its line, holds a quote only behind a backslash that escapes it, and is read
as the text of the literal. So a literal is that of one text alone, a key is that of one name,
and code selects a member by one name. -/
theorem keyForms_injective :
    (∀ text, ∃ body, quoted text = "'" ++ body ++ "'" ∧ body = Text.Literal.escapedInTurn text ∧
      StandsFor body text) ∧
    Function.Injective quoted ∧ Function.Injective propertyKey ∧
    ∀ target, Function.Injective (memberAccess target) := by
  refine ⟨fun text => ?_, quoted_injective, propertyKey_injective, fun target name other same => ?_⟩
  · exact ⟨Text.Literal.body text, rfl, Text.Literal.body_eq_escapedInTurn text,
      standsFor_of_reads (Quotation.read_body [] text)⟩
  · rw [memberAccess_eq, memberAccess_eq] at same
    exact selector_injective (List.append_cancel_left same)

end ApiClient.Code
