import ApiClient.Proofs.Agreement
import ApiClient.Proofs.Code.Quotations
import ApiClient.Proofs.Code.Words
import ApiClient.Proofs.Source.Chain

/-! Enumerations as code reads them back: the texts with which their members are initialised, in
order. They are read from the indented declaration, so they are what the members become by escapes
and indentation together. -/

namespace ApiClient.Code

namespace Enumeration

/-! ## Reading -/

/-- Where a reader stands in the body of an enumeration. A literal is a name or a value. -/
inductive Position where
  | outside
  | name
  | named
  | assigned
  | literal (isValue : Bool) (literal : Quotation)
  | closed
  | broken
  deriving DecidableEq, Repr

structure Reader where
  values : List Text
  position : Position
  deriving DecidableEq, Repr

/-- What can stand between the parts of a member. -/
def isSpace (c : CodePoint) : Prop :=
  c = ' ' ∨ c = '\n'

instance (c : CodePoint) : Decidable (isSpace c) :=
  inferInstanceAs (Decidable (_ ∨ _))

namespace Position

def afterOutside (c : CodePoint) : Position :=
  if isSpace c then .outside
  else if c = '\x7d' then .closed
  else if c = '\'' then .literal false (.inside [])
  else if c.isIn isIdentifierStart then .name
  else .broken

def afterNamed (c : CodePoint) : Position :=
  if isSpace c then .named else if c = '=' then .assigned else .broken

def afterName (c : CodePoint) : Position :=
  if c.isIn isIdentifierPart then .name else afterNamed c

def afterAssigned (c : CodePoint) : Position :=
  if isSpace c then .assigned else if c = '\'' then .literal true (.inside []) else .broken

end Position

namespace Reader

def step (reader : Reader) (c : CodePoint) : Reader :=
  match reader.position with
  | .outside => ⟨reader.values, .afterOutside c⟩
  | .name => ⟨reader.values, .afterName c⟩
  | .named | .literal false (.complete _) => ⟨reader.values, .afterNamed c⟩
  | .assigned => ⟨reader.values, .afterAssigned c⟩
  | .literal true (.complete text) =>
    if c = ',' then ⟨reader.values ++ [text], .outside⟩ else ⟨reader.values, .broken⟩
  | .literal isValue literal => ⟨reader.values, .literal isValue (literal.step c)⟩
  | .closed | .broken => reader

def read (reader : Reader) (text : Text) : Reader :=
  text.foldl step reader

end Reader

/-- How the declaration of an enumeration begins. -/
def opening (name : Text) : Text :=
  "export enum " ++ name ++ " \x7b"

/-- The texts that initialise the members of the enumeration with which a text begins. -/
def initialisers? (name text : Text) : Option (List Text) :=
  match Text.remainder? (opening name) text with
  | none => none
  | some body =>
    match Reader.read ⟨[], .outside⟩ body with
    | ⟨values, .closed⟩ => some values
    | _ => none

example : initialisers? "A" "export enum A \x7b\n  b = 'it\\'s',\n  '-' = '\\n',\n\x7d\n" =
    some [("it's" : Text), ("\n" : Text)] := by decide

namespace Reader

@[simp] theorem read_nil (reader : Reader) : reader.read [] = reader := rfl

@[simp] theorem read_cons (reader : Reader) (c : CodePoint) (text : Text) :
    reader.read (c :: text) = (reader.step c).read text := rfl

@[simp] theorem read_append (reader : Reader) (text rest : Text) :
    reader.read (text ++ rest) = (reader.read text).read rest :=
  List.foldl_append

private theorem read_closed (values : List Text) (text : Text) :
    read ⟨values, .closed⟩ text = ⟨values, .closed⟩ := by
  induction text with
  | nil => rfl
  | cons c text induction => exact induction

/-! ## Parts of members -/

theorem read_lead {reader : Reader} (stays : reader.step ' ' = reader) (level : Nat)
    (rest : Text) : reader.read (Text.lead level rest) = reader := by
  have stays : reader.read (Text.indentation level) = reader := by
    induction level with
    | zero => rfl
    | succ level induction =>
        rw [Text.indentation, List.replicate_succ, List.flatten_cons, read_append]
        change ((reader.step ' ').step ' ').read (Text.indentation level) = reader
        rw [stays, stays, induction]
  rw [Text.lead]
  split
  · rfl
  · exact stays

private theorem read_literal {isValue : Bool} {values : List Text} {literal : Quotation}
    {text read : Text} (reads : text.foldl Quotation.step literal = .inside read) :
    Reader.read ⟨values, .literal isValue literal⟩ text =
      ⟨values, .literal isValue (.inside read)⟩ := by
  induction text generalizing literal with
  | nil =>
      cases reads
      rfl
  | cons c text induction =>
      cases literal with
      | inside before => cases isValue <;> exact induction reads
      | escaped before => cases isValue <;> exact induction reads
      | complete before =>
          exact Quotation.noConfusion ((Quotation.foldl_step_broken text).symm.trans reads)
      | broken =>
          exact Quotation.noConfusion ((Quotation.foldl_step_broken text).symm.trans reads)

private theorem read_quoted (isValue : Bool) (values : List Text) (text rest : Text) :
    Reader.read ⟨values, .literal isValue (.inside [])⟩ (Text.Literal.body text ++ "'" ++ rest) =
      Reader.read ⟨values, .literal isValue (.complete text)⟩ rest := by
  rw [read_append, read_append, read_literal (Quotation.read_body [] text)]
  cases isValue <;> rfl

theorem not_isBreak_of_isIdentifierPart {c : CodePoint} (part : c.isIn isIdentifierPart) :
    c.isIn Text.isBreak = false := by
  cases c with
  | surrogate index => rfl
  | char c =>
      have codes : ('A' : Char).val.toNat = 65 ∧ ('Z' : Char).val.toNat = 90 ∧
        ('a' : Char).val.toNat = 97 ∧ ('z' : Char).val.toNat = 122 ∧
        ('0' : Char).val.toNat = 48 ∧ ('9' : Char).val.toNat = 57 := by decide
      have range : 36 ≤ c.val.toNat ∧ c.val.toNat ≤ 122 := by
        simp only [CodePoint.isIn, isIdentifierPart, isIdentifierStart, Bool.or_eq_true,
          Bool.and_eq_true, decide_eq_true_eq, beq_iff_eq, Char.le_def,
          UInt32.le_iff_toNat_le] at part
        rcases part with (((letter | letter) | rfl) | rfl) | digit
        · omega
        · omega
        · decide
        · decide
        · omega
      have code : c.toNat = c.val.toNat := rfl
      simp only [CodePoint.isIn, Text.isBreak, Bool.or_eq_false_iff, Bool.and_eq_false_iff,
        decide_eq_false_iff_not, beq_eq_false_iff_ne]
      omega

/-- A name is read up to the sign that gives it a value. -/
theorem read_continues {name : Text} (continues : Identifier.continues name) (values : List Text)
    (rest : Text) :
    Reader.read ⟨values, .name⟩ (Text.hang 1 (name ++ " = " ++ rest)) =
      Reader.read ⟨values, .assigned⟩ (Text.hang 1 rest) := by
  induction name using Identifier.continues.induct with
  | case1 => rfl
  | case2 =>
      change Reader.read _ (Text.hang 1 (.char '\n' :: (" = " ++ rest))) = _
      rw [Text.hang_lineFeed, Text.indent_eq, read_cons, read_append]
      exact congrArg (Reader.read · _) (read_lead rfl 1 _)
  | case3 c name _ induction =>
      rw [Identifier.continues, Bool.and_eq_true] at continues
      · have notBreak := not_isBreak_of_isIdentifierPart continues.1
        rw [List.cons_append, List.cons_append, Text.hang_cons_of_not_isBreak 1 _ notBreak,
          read_cons]
        have part : Reader.step ⟨values, .name⟩ c = ⟨values, .name⟩ := by
          change (⟨values, .afterName c⟩ : Reader) = _
          rw [Position.afterName, if_pos continues.1]
        rw [part, induction continues.2]
      · assumption

private theorem read_propertyKey (key : Text) (values : List Text) (rest : Text) :
    Reader.read ⟨values, .outside⟩ (Text.hang 1 (propertyKey key ++ " = " ++ rest)) =
      Reader.read ⟨values, .assigned⟩ (Text.hang 1 rest) := by
  have equals : Text.hang 1 (" = " ++ rest) = " = " ++ Text.hang 1 rest :=
    Text.hang_append_of_not_isBreak 1 " = " rest (by decide)
  rw [propertyKey]
  split
  · rename_i identifier
    cases key with
    | nil => exact Bool.noConfusion identifier
    | cons c key =>
        obtain ⟨start, continues⟩ := Bool.and_eq_true_iff.mp identifier
        have part : c.isIn isIdentifierPart := by
          cases c with
          | surrogate index => exact Bool.noConfusion start
          | char c => exact Bool.or_eq_true_iff.mpr (.inl start)
        have inert : ∀ sign ∈ (" \n\x7d'" : Text), sign.isIn isIdentifierStart = false := by decide
        have ne {sign : CodePoint} (member : sign ∈ (" \n\x7d'" : Text)) : c ≠ sign := by
          rintro rfl
          exact Bool.noConfusion (start.symm.trans (inert c member))
        have first : Reader.step ⟨values, .outside⟩ c = ⟨values, .name⟩ := by
          change (⟨values, .afterOutside c⟩ : Reader) = _
          have notSpace : ¬ isSpace c := fun space => space.elim (ne (by decide)) (ne (by decide))
          rw [Position.afterOutside, if_neg notSpace, if_neg (ne (by decide)),
            if_neg (ne (by decide)), if_pos start]
        rw [List.cons_append, List.cons_append, Text.hang_cons_of_not_isBreak 1 _
          (not_isBreak_of_isIdentifierPart part), read_cons, first, read_continues continues]
  · rw [List.append_assoc, Text.hang_quoted, equals]
    change Reader.read ⟨values, .literal false (.inside [])⟩
      (Text.Literal.body _ ++ "'" ++ (" = " ++ Text.hang 1 rest)) = _
    rw [read_quoted]
    rfl

private theorem read_memberText (value : Text) (values : List Text) (rest : Text) :
    Reader.read ⟨values, .outside⟩ (Text.hang 1 (memberText value ++ rest)) =
      Reader.read ⟨values ++ [Text.Literal.indented 1 value], .outside⟩ (Text.hang 1 rest) := by
  obtain ⟨key, isKey⟩ : ∃ key, memberName value = propertyKey key := by
    rw [memberName]
    split
    · exact ⟨_, rfl⟩
    · exact ⟨_, rfl⟩
  have comma : Text.hang 1 ("," ++ rest) = "," ++ Text.hang 1 rest :=
    Text.hang_cons_of_not_isBreak 1 rest rfl
  rw [memberText, isKey, List.append_assoc, List.append_assoc, read_propertyKey, Text.hang_quoted,
    comma]
  change Reader.read ⟨values, .literal true (.inside [])⟩
    (Text.Literal.body _ ++ "'" ++ ("," ++ Text.hang 1 rest)) = _
  rw [read_quoted]
  rfl

private theorem read_members (members values : List Text) :
    Reader.read ⟨values, .outside⟩ (Text.hang 1 (lines (members.map memberText))) =
      ⟨values ++ members.map (Text.Literal.indented 1), .outside⟩ := by
  induction members generalizing values with
  | nil => simp [lines, joined, Text.hang]
  | cons member others induction =>
      cases others with
      | nil =>
          have last := read_memberText member values []
          rw [List.append_nil] at last
          exact last
      | cons next others =>
          change Reader.read _ (Text.hang 1 (memberText member ++ "\n" ++
            lines ((next :: others).map memberText))) = _
          rw [List.append_assoc, read_memberText]
          change Reader.read _
            (Text.hang 1 (.char '\n' :: lines ((next :: others).map memberText))) = _
          rw [Text.hang_lineFeed, Text.indent_eq, read_cons, read_append]
          have lineEnd (values : List Text) :
              Reader.step ⟨values, .outside⟩ '\n' = ⟨values, .outside⟩ := rfl
          rw [lineEnd, read_lead rfl, induction, List.append_assoc]
          rfl

end Reader

/-! ## Declarations -/

/-- What stands between the brackets of an enumeration, and the closing one. -/
def bodyText (members : List Text) : Text :=
  if members.isEmpty then "\x7d" else "\n" ++ indented (lines (members.map memberText)) ++ "\n\x7d"

theorem enumDeclaration_eq {members : List Value} {texts : List Text}
    (given : members.filter (!isNull ·) = texts.map .text) (name : Text) :
    enumDeclaration name members = .ok (opening name ++ bodyText texts) := by
  have written : (members.filter (!isNull ·)).mapM memberOf = .ok (texts.map memberText) := by
    rw [given, mapM_eq_ok_iff, List.forall₂_map_left_iff, List.forall₂_map_right_iff]
    exact List.forall₂_same.mpr fun text member => rfl
  rw [enumDeclaration, written, opening, bodyText]
  cases texts with
  | nil =>
      change Except.ok (("export enum " ++ name) ++ " \x7b\x7d") =
        Except.ok (("export enum " ++ name) ++ " \x7b" ++ "\x7d")
      simp only [List.append_assoc]
      rfl
  | cons text others =>
      change Except.ok (("export enum " ++ name) ++ " \x7b\n" ++ _ ++ "\n\x7d") =
        Except.ok (("export enum " ++ name) ++ " \x7b" ++ ("\n" ++ _ ++ "\n\x7d"))
      simp only [List.append_assoc]
      rfl

private theorem read_bodyText (members : List Text) (rest : Text) :
    Reader.read ⟨[], .outside⟩ (bodyText members ++ rest) =
      ⟨members.map (Text.Literal.indented 1), .closed⟩ := by
  cases members with
  | nil => exact Reader.read_closed [] rest
  | cons member others =>
      have first : Reader.step ⟨[], .outside⟩ '\n' = ⟨[], .outside⟩ := rfl
      change Reader.read ⟨[], .outside⟩
        (.char '\n' :: indented (lines ((member :: others).map memberText)) ++ "\n\x7d" ++ rest) = _
      rw [Reader.read_append, Reader.read_append, Reader.read_cons, first, indented, Text.indent_eq,
        Reader.read_append, Reader.read_lead rfl, Reader.read_members]
      exact Reader.read_closed _ rest

/-- An enumeration can be read wherever its declaration stands. -/
theorem initialisers?_declaration (name : Text) (members : List Text) (rest : Text) :
    initialisers? name (opening name ++ bodyText members ++ rest) =
      some (members.map (Text.Literal.indented 1)) := by
  rw [initialisers?, List.append_assoc, Text.remainder?_append]
  dsimp only
  rw [read_bodyText]

private theorem opening_append_ne_nil (name body : Text) : opening name ++ body ≠ [] :=
  List.cons_ne_nil _ _

/-- A schema of texts that lists its members is declared as their enumeration. -/
theorem renderOne_enumeration {facets : Facets} {members : List Value} {texts : List Text}
    (kind : facets.kind = some .string) (listed : facets.members = some members)
    (given : members.filter (!isNull ·) = texts.map .text) (name : Text) (items : Option Node)
    (properties : Option (List (Text × Node))) :
    ((Chain.mk defaultDeclarers).renderOne name (.inline facets items properties)).answer =
      .ok (some (opening name ++ bodyText texts)) := by
  have byObject : declareObject name (.inline facets items properties) = .ok none := by
    rw [declareObject, declarerWhere, kind]
    rfl
  have byEnum : declareEnum name (.inline facets items properties) =
      .ok (some (opening name ++ bodyText texts)) := by
    rw [declareEnum, declarerWhere, listed]
    dsimp only [Option.isSome_some, if_true]
    rw [kind]
    dsimp only
    rw [Option.getD_some, enumDeclaration_eq given]
    rfl
  rw [Chain.renderOne, defaultDeclarers, Chain.answer_dispatch_of_none byObject,
    Chain.answer_dispatch_of_some byEnum]

end Enumeration

/-- The members of an enumeration as they are read back from the module of declarations, where it
stands after the schemas before it. They are the listed ones, except that indentation goes into a
member with a line break that its literal does not escape. -/
theorem enumeration_renderModels {facets : Facets} {members : List Value} {texts : List Text}
    (kind : facets.kind = some .string) (listed : facets.members = some members)
    (given : members.filter (!isNull ·) = texts.map .text) (name : Text) (items : Option Node)
    (properties : Option (List (Text × Node))) (before after : List (Text × Node)) :
    ((∃ text, (renderModels (before ++ (name, .inline facets items properties) :: after)).outcome =
      .ok text) ↔ ∃ text, (renderModels (before ++ after)).outcome = .ok text) ∧
    (∀ text, (renderModels (before ++ (name, .inline facets items properties) :: after)).outcome =
      .ok text → ∃ earlier rest, declarations before = .ok earlier ∧
        text = earlier.flatMap (· ++ blankLine) ++ rest ∧
        Enumeration.initialisers? name rest = some (texts.map (Text.Literal.indented 1))) ∧
    (texts.map (Text.Literal.indented 1) = texts ↔
      ∀ text ∈ texts, ∀ c ∈ text, Text.isOpenBreak c = false) := by
  have rendered := renderModels_append_cons before after
    (Enumeration.opening_append_ne_nil name _)
    (Enumeration.renderOne_enumeration kind listed given name items properties)
  rw [rendered]
  refine ⟨?_, fun text succeeds => ?_, ?_⟩
  · rw [exists_renderModels_append]
    simp only [bind_eq_ok_iff, pure_eq_ok_iff]
    constructor
    · rintro ⟨_, earlier, ofBefore, later, ofAfter, -⟩
      exact ⟨⟨earlier, ofBefore⟩, later, ofAfter⟩
    · rintro ⟨⟨earlier, ofBefore⟩, later, ofAfter⟩
      exact ⟨_, earlier, ofBefore, later, ofAfter, rfl⟩
  · simp only [bind_eq_ok_iff, pure_eq_ok_iff] at succeeds
    obtain ⟨earlier, ofBefore, later, -, rfl⟩ := succeeds
    exact ⟨earlier, _, ofBefore, rfl, Enumeration.initialisers?_declaration name texts _⟩
  · have same : texts.map (Text.Literal.indented 1) = texts ↔
        ∀ text ∈ texts, Text.Literal.indented 1 text = text := by
      simpa using List.map_inj_left (l := texts) (f := Text.Literal.indented 1) (g := id)
    rw [same]
    exact forall₂_congr fun text _ => Text.Literal.indented_eq_self_iff

/-- Texts as they could be meant to separate lines, among others. -/
def separatedTexts : Facets where
  kind := some .string
  members := some [.text "it's\n", .null, .text "a\u2028b"]

theorem enumeration_separatedTexts : ∃ text rest,
    (renderModels [("N", .inline { kind := some .null } none none),
      ("A", .inline separatedTexts none none)]).outcome = .ok text ∧
    text = "export type N = null;\n\n" ++ rest ∧
    Enumeration.initialisers? "A" rest = some [("it's\n" : Text), ("a\u2028  b" : Text)] := by
  have given : [.text "it's\n", .null, .text "a\u2028b"].filter (!isNull ·) =
      [("it's\n" : Text), ("a\u2028b" : Text)].map .text := rfl
  obtain ⟨text, succeeds⟩ : ∃ text, (renderModels [("N", .inline { kind := some .null } none none),
      ("A", .inline separatedTexts none none)]).outcome = .ok text := ⟨_, rfl⟩
  obtain ⟨earlier, rest, ofBefore, split, values⟩ :=
    (enumeration_renderModels (rfl : separatedTexts.kind = some .string) rfl given "A" none none
      [("N", .inline { kind := some .null } none none)] []).2.1 text succeeds
  obtain rfl : [("export type N = null;" : Text)] = earlier := Except.ok.inj ofBefore
  exact ⟨text, rest, succeeds, split, values⟩

/-- A line separator is not escaped, so the literal goes on in the next line, and the indentation of
that line becomes a part of the value. -/
theorem enumeration_lineSeparator : ∃ text,
    (renderModels [("A", .inline { kind := some .string, members := some [.text "a\u2028b"] }
      none none)]).outcome = .ok text ∧
    Enumeration.initialisers? "A" text = some [("a\u2028  b" : Text)] ∧
    ("a\u2028  b" : Text) ≠ "a\u2028b" :=
  ⟨_, rfl, by decide, by decide⟩

end ApiClient.Code
