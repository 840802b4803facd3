import ApiClient.Text.CodePoint

/-! Generated code as a lexer reads it, one code point at a time. A comment and a literal end where
their own rules say, and brackets count only outside of both. In a template, a dollar and a curly
bracket lead back to code until the bracket is closed.

A text is closed when the reading ends as it began: in code, inside no bracket. -/

namespace ApiClient.Code

/-- What is open around a position. A placeholder is the part of a template that is code. -/
inductive Bracket where
  | round
  | square
  | curly
  | placeholder
  deriving DecidableEq, Repr

inductive Quote where
  | single
  | double
  deriving DecidableEq, Repr

def Quote.mark : Quote → CodePoint
  | .single => '\''
  | .double => '"'

/-- What the last code points were part of. A slash may begin a comment, a star may end one, and a
dollar may begin a placeholder. What is broken stays so. -/
inductive Mode where
  | code
  | slash
  | comment
  | star
  | literal (quote : Quote)
  | escape (quote : Quote)
  | template
  | dollar
  | templateEscape
  | broken
  deriving DecidableEq, Repr

structure Scanner where
  enclosing : List Bracket
  mode : Mode
  deriving DecidableEq, Repr

namespace Scanner

/-- Outside of everything. -/
def start : Scanner :=
  ⟨[], .code⟩

/-! ## Steps -/

/-- Only the innermost bracket can be closed, and only by its own kind. -/
def closing (bracket : Bracket) : List Bracket → Scanner
  | [] => ⟨[], .broken⟩
  | other :: outside => if other = bracket then ⟨outside, .code⟩ else ⟨other :: outside, .broken⟩

/-- The end of a placeholder leads back to its template. -/
def closingCurly : List Bracket → Scanner
  | .placeholder :: outside => ⟨outside, .template⟩
  | enclosing => closing .curly enclosing

def stepCode (enclosing : List Bracket) (c : CodePoint) : Scanner :=
  if c = '(' then ⟨.round :: enclosing, .code⟩
  else if c = '[' then ⟨.square :: enclosing, .code⟩
  else if c = '\x7b' then ⟨.curly :: enclosing, .code⟩
  else if c = ')' then closing .round enclosing
  else if c = ']' then closing .square enclosing
  else if c = '\x7d' then closingCurly enclosing
  else if c = '\'' then ⟨enclosing, .literal .single⟩
  else if c = '"' then ⟨enclosing, .literal .double⟩
  else if c = '\x60' then ⟨enclosing, .template⟩
  else if c = '/' then ⟨enclosing, .slash⟩
  else ⟨enclosing, .code⟩

/-- The code points that mean something in code. -/
def signs : Text := "()[]\x7b\x7d'\"\x60/"

theorem stepCode_of_not_mem {c : CodePoint} (plain : c ∉ signs) (enclosing : List Bracket) :
    stepCode enclosing c = ⟨enclosing, .code⟩ := by
  simp [signs, Text.ofString, Text.ofCharacters] at plain
  simp [stepCode, plain]

/-- A line may not end inside a literal, not even after a backslash. -/
def endsLine (c : CodePoint) : Prop :=
  c = '\n' ∨ c = '\r'

instance (c : CodePoint) : Decidable (endsLine c) :=
  inferInstanceAs (Decidable (_ ∨ _))

def literalMode (quote : Quote) (c : CodePoint) : Mode :=
  if endsLine c then .broken
  else if c = quote.mark then .code
  else if c = '\\' then .escape quote
  else .literal quote

def templateMode (c : CodePoint) : Mode :=
  if c = '\x60' then .code
  else if c = '\\' then .templateEscape
  else if c = '$' then .dollar
  else .template

def step (scanner : Scanner) (c : CodePoint) : Scanner :=
  match scanner.mode with
  | .code => stepCode scanner.enclosing c
  | .slash => if c = '*' then ⟨scanner.enclosing, .comment⟩ else stepCode scanner.enclosing c
  | .comment => ⟨scanner.enclosing, if c = '*' then .star else .comment⟩
  | .star =>
    ⟨scanner.enclosing, if c = '/' then .code else if c = '*' then .star else .comment⟩
  | .literal quote => ⟨scanner.enclosing, literalMode quote c⟩
  | .escape quote => ⟨scanner.enclosing, if endsLine c then .broken else .literal quote⟩
  | .template => ⟨scanner.enclosing, templateMode c⟩
  | .dollar =>
    if c = '\x7b' then ⟨.placeholder :: scanner.enclosing, .code⟩
    else ⟨scanner.enclosing, templateMode c⟩
  | .templateEscape => ⟨scanner.enclosing, .template⟩
  | .broken => scanner

def scan (scanner : Scanner) (text : Text) : Scanner :=
  text.foldl step scanner

@[simp] theorem scan_nil (scanner : Scanner) : scanner.scan [] = scanner := rfl

@[simp] theorem scan_cons (scanner : Scanner) (c : CodePoint) (text : Text) :
    scanner.scan (c :: text) = (scanner.step c).scan text := rfl

@[simp] theorem scan_append (scanner : Scanner) (text rest : Text) :
    scanner.scan (text ++ rest) = (scanner.scan text).scan rest :=
  List.foldl_append

end Scanner

def IsClosed (text : Text) : Prop :=
  Scanner.start.scan text = Scanner.start

instance (text : Text) : Decidable (IsClosed text) :=
  inferInstanceAs (Decidable (_ = _))

example : IsClosed "f('(', \x60)$\x7bg([\"\x7d\"])\x7d\x60) /* ' ( */" := by decide

example : ¬ IsClosed "f(]" := by decide

/-! ## Comments

A comment gives way to a mark, or to nothing. A slash is written only when it is known that it
does not begin a comment. -/

namespace Scanner

/-- What one more code point adds to the text. -/
def written (mark : Text) (mode : Mode) (c : CodePoint) : Text :=
  match mode with
  | .code => if c = '/' then [] else [c]
  | .slash => if c = '*' then mark else if c = '/' then [c] else ['/', c]
  | .comment | .star => []
  | _ => [c]

/-- What is still to be written when the text ends. -/
def pending (mode : Mode) : Text :=
  if mode = .slash then "/" else []

def replacingComments (mark : Text) (scanner : Scanner) : Text → Text
  | [] => pending scanner.mode
  | c :: rest => written mark scanner.mode c ++ replacingComments mark (scanner.step c) rest

end Scanner

/-- A text without the comments that stand outside of its literals. -/
def withoutComments (text : Text) : Text :=
  Scanner.start.replacingComments [] text

example : withoutComments "a /* b\n */ '/* c */' / d" = "a  '/* c */' / d" := by decide

namespace Scanner

@[simp] theorem replacingComments_cons (mark : Text) (scanner : Scanner) (c : CodePoint)
    (rest : Text) :
    scanner.replacingComments mark (c :: rest) =
      written mark scanner.mode c ++ (scanner.step c).replacingComments mark rest := rfl

/-- Texts can be taken one after the other unless a slash is left at the seam. -/
theorem replacingComments_append (mark : Text) (scanner : Scanner) (text rest : Text)
    (seam : (scanner.scan text).mode ≠ .slash) :
    scanner.replacingComments mark (text ++ rest) =
      scanner.replacingComments mark text ++
        (scanner.scan text).replacingComments mark rest := by
  induction text generalizing scanner with
  | nil =>
      have settled : scanner.mode ≠ .slash := seam
      simp [replacingComments, pending, settled]
  | cons c text induction =>
      rw [List.cons_append, replacingComments_cons, induction _ seam]
      simp

end Scanner

end ApiClient.Code
