import ApiClient.Proofs.Code.Comments
import Mathlib.Data.List.Forall2

/-! What pieces of code do to a scanner, and when two pieces say the same apart from comments. Both
are stated for pieces inside any brackets, so that they hold of a whole when they hold of its parts:
of texts one after the other, of lists with a separator, and of indented code. -/

namespace ApiClient.Code

/-- Read in code inside of some brackets, a text leads to code inside of others, whatever is further
outside. -/
def Reads (before after : List Bracket) (text : Text) : Prop :=
  ∀ outside, Scanner.scan ⟨before ++ outside, .code⟩ text = ⟨after ++ outside, .code⟩

/-- A balanced text can stand anywhere in code. -/
abbrev Balanced (text : Text) : Prop :=
  Reads [] [] text

theorem Balanced.isClosed {text : Text} (balanced : Balanced text) : IsClosed text :=
  balanced []

namespace Reads

variable {before between after : List Bracket} {text rest : Text}

theorem append (first : Reads before between text) (second : Reads between after rest) :
    Reads before after (text ++ rest) := by
  intro outside
  rw [Scanner.scan_append, first, second]

theorem within (reads : Reads before after text) (around : List Bracket) :
    Reads (before ++ around) (after ++ around) text := by
  intro outside
  rw [List.append_assoc, List.append_assoc]
  exact reads (around ++ outside)

theorem indent (reads : Reads before after text) (level : Nat) :
    Reads before after (Text.indent level text) := by
  intro outside
  rw [Scanner.scan_indent level rfl]
  exact reads outside

/-- A text between brackets of one kind. -/
theorem enclosed {bracket : Bracket} {opening text closing : Text} (balanced : Balanced text)
    (opens : Reads [] [bracket] opening) (closes : Reads [bracket] [] closing) :
    Balanced (opening ++ text ++ closing) :=
  (opens.append (balanced.within [bracket])).append closes

end Reads

/-! ## Two texts -/

/-- Texts that are read alike and differ at most in what their comments say. Comments that
differ are never on one line. -/
structure Alike (before after : List Bracket) (left right : Text) : Prop where
  left_reads : Reads before after left
  right_reads : Reads before after right
  breaks : left = right ∨ .char '\n' ∈ left ∧ .char '\n' ∈ right
  same : ∀ outside, Scanner.replacingComments emptyComment ⟨before ++ outside, .code⟩ left =
    Scanner.replacingComments emptyComment ⟨before ++ outside, .code⟩ right

abbrev Similar (left right : Text) : Prop :=
  Alike [] [] left right

theorem Reads.alike {before after : List Bracket} {text : Text} (reads : Reads before after text) :
    Alike before after text text :=
  ⟨reads, reads, .inl rfl, fun _ => rfl⟩

theorem Similar.withoutComments_eq {left right : Text} (similar : Similar left right) :
    withoutComments left = withoutComments right := by
  have written (text : Text) : withoutComments text =
      Scanner.start.replacingComments [] (Scanner.start.replacingComments emptyComment text) :=
    (Scanner.deletesAll Scanner.start text).symm
  rw [written, written]
  exact congrArg _ (similar.same [])

namespace Alike

variable {before between after : List Bracket} {left right more others : Text}

theorem append (first : Alike before between left right)
    (second : Alike between after more others) :
    Alike before after (left ++ more) (right ++ others) where
  left_reads := first.left_reads.append second.left_reads
  right_reads := first.right_reads.append second.right_reads
  breaks := by
    rcases first.breaks with rfl | ⟨inLeft, inRight⟩
    · rcases second.breaks with rfl | ⟨inMore, inOthers⟩
      · exact .inl rfl
      · exact .inr ⟨List.mem_append_right _ inMore, List.mem_append_right _ inOthers⟩
    · exact .inr ⟨List.mem_append_left _ inLeft, List.mem_append_left _ inRight⟩
  same outside := by
    have seam (text : Text) (reads : Reads before between text) :
        (Scanner.scan ⟨before ++ outside, .code⟩ text).mode ≠ .slash := by
      rw [reads outside]
      exact Mode.noConfusion
    rw [Scanner.replacingComments_append _ _ _ _ (seam left first.left_reads),
      Scanner.replacingComments_append _ _ _ _ (seam right first.right_reads),
      first.left_reads outside, first.right_reads outside, first.same, second.same]

/-- Also a comment is seen from its first sign on. -/
theorem head?_eq (alike : Alike before after left right) : left.head? = right.head? := by
  have same := congrArg List.head? (alike.same [])
  rwa [Scanner.head?_replacingComments rfl rfl, Scanner.head?_replacingComments rfl rfl] at same

theorem append_reads (alike : Alike before between left right) {text : Text}
    (reads : Reads between after text) : Alike before after (left ++ text) (right ++ text) :=
  alike.append reads.alike

theorem reads_append {text : Text} (reads : Reads before between text)
    (alike : Alike between after left right) :
    Alike before after (text ++ left) (text ++ right) :=
  reads.alike.append alike

theorem within (alike : Alike before after left right) (around : List Bracket) :
    Alike (before ++ around) (after ++ around) left right where
  left_reads := alike.left_reads.within around
  right_reads := alike.right_reads.within around
  breaks := alike.breaks
  same outside := by
    rw [List.append_assoc]
    exact alike.same (around ++ outside)

private theorem indent (alike : Alike before after left right) (level : Nat) :
    Alike before after (Text.indent level left) (Text.indent level right) where
  left_reads := alike.left_reads.indent level
  right_reads := alike.right_reads.indent level
  breaks := alike.breaks.imp (congrArg _) fun breaks =>
    ⟨Text.mem_indent level breaks.1, Text.mem_indent level breaks.2⟩
  same outside := by
    rw [Scanner.replacingComments_indent level rfl rfl,
      Scanner.replacingComments_indent level rfl rfl, alike.same]

/-- Texts on two lines. -/
theorem line (first : Alike before between left right) (rest : Alike between after more others) :
    Alike before after (left ++ "\n" ++ more) (right ++ "\n" ++ others) := by
  have lineEnd : Reads between between "\n" := fun _ => rfl
  exact (first.append_reads lineEnd).append rest

/-- Similar texts between brackets of one kind. -/
theorem enclosed {bracket : Bracket} {opening closing : Text} (similar : Similar left right)
    (opens : Reads [] [bracket] opening) (closes : Reads [bracket] [] closing) :
    Similar (opening ++ left ++ closing) (opening ++ right ++ closing) :=
  (reads_append opens (similar.within [bracket])).append_reads closes

end Alike

/-- Similar texts with the same separator between them. -/
theorem similar_joined {separator : Text} (balanced : Balanced separator) {left right : List Text}
    (similar : List.Forall₂ Similar left right) :
    Similar (joined separator left) (joined separator right) := by
  induction similar with
  | nil => exact Reads.alike fun _ => rfl
  | @cons first second rest others head tail induction =>
      cases tail with
      | nil => exact head
      | cons _ _ => exact (head.append balanced.alike).append induction

theorem balanced_joined {separator : Text} (separated : Balanced separator) {texts : List Text}
    (balanced : ∀ text ∈ texts, Balanced text) : Balanced (joined separator texts) :=
  (similar_joined separated (List.forall₂_same.mpr fun text member =>
    (balanced text member).alike)).left_reads

theorem similar_lines {left right : List Text} (similar : List.Forall₂ Similar left right) :
    Similar (lines left) (lines right) :=
  similar_joined (fun _ => rfl) similar

theorem balanced_lines {texts : List Text} (balanced : ∀ text ∈ texts, Balanced text) :
    Balanced (lines texts) :=
  balanced_joined (fun _ => rfl) balanced

theorem lines_append {first second : List Text} (nonempty : first ≠ []) (other : second ≠ []) :
    lines (first ++ second) = lines first ++ "\n" ++ lines second := by
  induction first with
  | nil => exact absurd rfl nonempty
  | cons text rest induction =>
      cases rest with
      | nil =>
          obtain ⟨next, more, rfl⟩ := List.exists_cons_of_ne_nil other
          rfl
      | cons next more =>
          have later := induction (List.cons_ne_nil next more)
          change text ++ "\n" ++ lines (next :: more ++ second) = _
          rw [later, ← List.append_assoc, ← List.append_assoc]
          rfl

theorem similar_indented {left right : Text} (similar : Similar left right) :
    Similar (indented left) (indented right) :=
  similar.indent 1

end ApiClient.Code
