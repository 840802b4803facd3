import ApiClient.Text.Blank
import ApiClient.Text.CodePoint

/-! Lines of a text. A line is its content and the break that ends it; only the last line of a
text can lack a break, and a carriage return with the line feed after it is one break. Joined
again, the lines are the text. -/

namespace ApiClient.Text

structure Line where
  content : Text
  ending : Text
  deriving DecidableEq, Repr

/-- Every character at which a line ends. -/
def isBreak (c : Char) : Bool :=
  let code := c.toNat
  (10 ≤ code && code ≤ 13) || (0x1c ≤ code && code ≤ 0x1e) || code == 0x85 ||
    code == 0x2028 || code == 0x2029

def Line.listOf : Text → List Line
  | [] => []
  | .char '\r' :: .char '\n' :: rest => ⟨[], "\r\n"⟩ :: listOf rest
  | c :: rest =>
    if c.isIn isBreak then ⟨[], [c]⟩ :: listOf rest
    else
      match listOf rest with
      | [] => [⟨[c], []⟩]
      | line :: more => ⟨c :: line.content, line.ending⟩ :: more

def Line.text (line : Line) : Text :=
  line.content ++ line.ending

example : Line.listOf "a\r\nb\n" = [⟨"a", "\r\n"⟩, ⟨"b", "\n"⟩] := by decide

example : Line.listOf "\n" = [⟨[], "\n"⟩] := by decide

/-! ## Indentation -/

/-- One level of indentation. -/
def indentStep : Text := "  "

def indentation (level : Nat) : Text :=
  (List.replicate level indentStep).flatten

/-- A blank line stays as it is; before any other line goes the indentation. -/
def Line.indented (level : Nat) (line : Line) : Text :=
  if line.text.all (·.isIn isBlank) then line.text else indentation level ++ line.text

def indent (level : Nat) (text : Text) : Text :=
  (Line.listOf text).flatMap (Line.indented level)

example : indent 1 "a\n\nb" = "  a\n\n  b" := by decide

end ApiClient.Text

namespace ApiClient

/-- Indent the lines of a text by one level. -/
def indented (text : Text) : Text :=
  Text.indent 1 text

/-- Texts as successive lines. -/
def lines (texts : List Text) : Text :=
  joined "\n" texts

end ApiClient
