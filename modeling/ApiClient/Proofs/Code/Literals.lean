import ApiClient.Proofs.Agreement
import ApiClient.Proofs.Code.Words

/-! Literals of generated code. Whatever a text holds, its literal is read to the closing quote
and no further, so that values from a document are balanced wherever they stand in code. -/

namespace ApiClient.Code

/-- What holds of the escape of every code point holds of a text. -/
theorem Scanner.scan_flatMap {scanner : Scanner} {escape : CodePoint → Text}
    (stays : ∀ c, scanner.scan (escape c) = scanner) (text : Text) :
    scanner.scan (text.flatMap escape) = scanner := by
  induction text with
  | nil => rfl
  | cons c text induction =>
      rw [List.flatMap_cons, scan_append, stays, induction]

/-! ## Quoted texts -/

theorem step_literal {quote : Quote} {c : CodePoint} (sameLine : ¬ Scanner.endsLine c)
    (notMark : c ≠ quote.mark) (notEscape : c ≠ '\\') (enclosing : List Bracket) :
    Scanner.step ⟨enclosing, .literal quote⟩ c = ⟨enclosing, .literal quote⟩ := by
  simp [Scanner.step, Scanner.literalMode, sameLine, notMark, notEscape]

theorem scan_escape (enclosing : List Bracket) (c : CodePoint) :
    Scanner.scan ⟨enclosing, .literal .single⟩ (Text.Literal.escape c) =
      ⟨enclosing, .literal .single⟩ := by
  unfold Text.Literal.escape
  split
  · rfl
  · rfl
  · rfl
  · rfl
  · rename_i backslash quote lineFeed carriageReturn
    have sameLine : ¬ Scanner.endsLine c := fun ends => ends.elim lineFeed carriageReturn
    have notMark : c ≠ Quote.mark .single := quote
    exact step_literal sameLine notMark backslash enclosing

theorem balanced_quoted (text : Text) : Balanced (quoted text) := by
  intro outside
  rw [quoted, Text.Literal.encode, Scanner.scan_append, Scanner.scan_append]
  change ((Scanner.scan ⟨outside, .literal .single⟩ (Text.Literal.body text)).scan "'") = _
  rw [Text.Literal.body, Scanner.scan_flatMap (scan_escape outside)]
  rfl

theorem balanced_propertyKey (name : Text) : Balanced (propertyKey name) := by
  rw [propertyKey]
  split
  · rename_i identifier
    exact (isPlain_of_isIdentifier identifier).balanced
  · exact balanced_quoted name

theorem balanced_memberAccess {target : Text} (balanced : Balanced target) (name : Text) :
    Balanced (memberAccess target name) := by
  rw [memberAccess]
  split
  · rename_i identifier
    exact (balanced.append fun _ => rfl).append (isPlain_of_isIdentifier identifier).balanced
  · have opening : Reads [] [.square] "[" := fun _ => rfl
    have closing : Reads [.square] [] "]" := fun _ => rfl
    have literal := (balanced_quoted name).within [.square]
    exact ((balanced.append opening).append literal).append closing

/-! ## JSON -/

private theorem step_hexDigit (enclosing : List Bracket) (value : Nat) :
    Scanner.step ⟨enclosing, .literal .double⟩ (Text.Utf8.hexDigit (value % 16)) =
      ⟨enclosing, .literal .double⟩ := by
  have inert : ∀ digit < 16, ¬ Scanner.endsLine (Text.Utf8.hexDigit digit) ∧
      CodePoint.char (Text.Utf8.hexDigit digit) ≠ Quote.mark .double ∧
      CodePoint.char (Text.Utf8.hexDigit digit) ≠ '\\' := by decide
  obtain ⟨sameLine, notMark, notEscape⟩ := inert (value % 16) (Nat.mod_lt value (by decide))
  exact step_literal sameLine notMark notEscape enclosing

private theorem scan_hexadecimals (enclosing : List Bracket) (width value : Nat) :
    Scanner.scan ⟨enclosing, .literal .double⟩
        (Text.ofCharacters (Text.Shown.hexadecimals width value)) =
      ⟨enclosing, .literal .double⟩ := by
  induction width generalizing value with
  | zero => rfl
  | succ width induction =>
      rw [Text.Shown.hexadecimals, Text.ofCharacters, List.map_append, Scanner.scan_append]
      exact (congrArg (Scanner.scan · _) (induction _)).trans (step_hexDigit enclosing value)

private theorem scan_unit (enclosing : List Bracket) (value : Nat) :
    Scanner.scan ⟨enclosing, .literal .double⟩ (Text.ofCharacters (Text.Ascii.unit value)) =
      ⟨enclosing, .literal .double⟩ :=
  scan_hexadecimals enclosing 4 value

private theorem scan_asciiEscape (enclosing : List Bracket) (c : CodePoint) :
    Scanner.scan ⟨enclosing, .literal .double⟩ (Text.ofCharacters (Text.Ascii.escape c)) =
      ⟨enclosing, .literal .double⟩ := by
  unfold Text.Ascii.escape
  split
  · rfl
  · rfl
  · rfl
  · rfl
  · rfl
  · rfl
  · rfl
  · rename_i c quote backslash lineFeed carriageReturn _ _ _
    dsimp only
    split
    · have sameLine : ¬ Scanner.endsLine c := fun ends => ends.elim (by simp_all) (by simp_all)
      exact step_literal sameLine (by simp_all [Quote.mark]) (by simp_all) enclosing
    · split
      · exact scan_unit enclosing _
      · rw [Text.ofCharacters, List.map_append, Scanner.scan_append]
        exact (congrArg (Scanner.scan · _) (scan_unit enclosing _)).trans (scan_unit enclosing _)
  · exact scan_unit enclosing _

private theorem balanced_stringText (text : Text) : Balanced (Json.stringText text) := by
  intro outside
  rw [Json.stringText, Text.Ascii.encode, Scanner.scan_append, Scanner.scan_append]
  have stays := Scanner.scan_flatMap (scan_asciiEscape outside) text
  rw [Text.ofCharacters, List.map_flatMap]
  exact congrArg (Scanner.scan · "\"") stays

/-- Numbers are read without a trace, in code and in a literal. -/
theorem scan_numeral {number : List Char} (numeral : IsNumeral number) (enclosing : List Bracket) :
    Scanner.scan ⟨enclosing, .literal .double⟩ (Text.ofCharacters number) =
      ⟨enclosing, .literal .double⟩ := by
  induction number with
  | nil => rfl
  | cons c rest induction =>
      have ⟨first, others⟩ := List.forall_mem_cons.mp numeral
      have ne {sign : Char} (noNumber : isNumeric sign = false) :
          CodePoint.char c ≠ .char sign := by
        rintro ⟨⟩
        exact Bool.noConfusion (first.symm.trans noNumber)
      have sameLine : ¬ Scanner.endsLine c := fun ends => ends.elim (ne rfl) (ne rfl)
      have notMark : CodePoint.char c ≠ Quote.mark .double := ne rfl
      have stays := step_literal sameLine notMark (ne rfl) enclosing
      exact (congrArg (Scanner.scan · _) stays).trans (induction others)

theorem numeral_of_integerText {value : Int} {text : Text}
    (written : Json.integerText value = .ok text) :
    ∃ number, IsNumeral number ∧ text = Text.ofCharacters number := by
  unfold Json.integerText Value.decimal? at written
  split at written
  · rename_i found
    split at found
    · cases found
      cases written
      exact ⟨_, isNumeral_ofInt value, rfl⟩
    · cases found
  · cases written

private theorem balanced_numericKey {number : List Char} (numeral : IsNumeral number) :
    Balanced ("\"" ++ Text.ofCharacters number ++ "\"") := by
  intro outside
  rw [Scanner.scan_append, Scanner.scan_append]
  exact congrArg (Scanner.scan · "\"") (scan_numeral numeral outside)

private theorem balanced_keyText {key : Value} {text : Text}
    (written : Json.keyText key = .ok text) :
    Balanced text := by
  cases key with
  | text name =>
      cases written
      exact balanced_stringText name
  | null =>
      cases written
      exact fun _ => rfl
  | bool value =>
      cases written
      cases value <;> exact fun _ => rfl
  | int value =>
      obtain ⟨_, digits, ⟨⟩⟩ := exists_of_bind_eq_ok written
      obtain ⟨number, numeral, rfl⟩ := numeral_of_integerText digits
      exact balanced_numericKey numeral
  | real value =>
      cases written
      exact balanced_numericKey (isNumeral_real value)
  | _ => cases written

mutual

theorem balanced_jsonText : (value : Value) → ∀ {text : Text}, Json.text value = .ok text →
    Balanced text
  | .null, _, written => by
      cases written
      exact fun _ => rfl
  | .bool value, _, written => by
      cases written
      cases value <;> exact fun _ => rfl
  | .int value, _, written => by
      obtain ⟨number, numeral, rfl⟩ := numeral_of_integerText written
      exact numeral.isPlain.balanced
  | .real value, _, written => by
      cases written
      exact (isNumeral_real value).isPlain.balanced
  | .text value, _, written => by
      cases written
      exact balanced_stringText value
  | .list items, _, written => by
      obtain ⟨texts, members, ⟨⟩⟩ := exists_of_bind_eq_ok written
      exact Reads.enclosed (balanced_joined (fun _ => rfl) (balanced_itemTexts items members))
        (fun _ => rfl) (fun _ => rfl)
  | .tuple items, _, written => by
      obtain ⟨texts, members, ⟨⟩⟩ := exists_of_bind_eq_ok written
      exact Reads.enclosed (balanced_joined (fun _ => rfl) (balanced_itemTexts items members))
        (fun _ => rfl) (fun _ => rfl)
  | .map entries, _, written => by
      obtain ⟨texts, members, ⟨⟩⟩ := exists_of_bind_eq_ok written
      exact Reads.enclosed (balanced_joined (fun _ => rfl) (balanced_entryTexts entries members))
        (fun _ => rfl) (fun _ => rfl)
  | .cycle _ content, _, written => balanced_jsonText content written
  | .date _, _, written => by cases written
  | .moment _, _, written => by cases written
  | .clock _, _, written => by cases written
  | .octets _, _, written => by cases written
  | .set _, _, written => by cases written
  | .again _ _, _, written => by cases written

theorem balanced_itemTexts : (items : List Value) → ∀ {texts : List Text},
    Json.itemTexts items = .ok texts → ∀ text ∈ texts, Balanced text
  | [], _, written => by
      cases written
      simp
  | item :: rest, _, written => by
      obtain ⟨first, ofFirst, written⟩ := exists_of_bind_eq_ok written
      obtain ⟨others, ofOthers, ⟨⟩⟩ := exists_of_bind_eq_ok written
      exact List.forall_mem_cons.mpr
        ⟨balanced_jsonText item ofFirst, balanced_itemTexts rest ofOthers⟩

theorem balanced_entryTexts : (entries : List (Value × Value)) → ∀ {texts : List Text},
    Json.entryTexts entries = .ok texts → ∀ text ∈ texts, Balanced text
  | [], _, written => by
      cases written
      simp
  | (key, value) :: rest, _, written => by
      obtain ⟨name, ofKey, written⟩ := exists_of_bind_eq_ok written
      obtain ⟨first, ofValue, written⟩ := exists_of_bind_eq_ok written
      obtain ⟨others, ofOthers, ⟨⟩⟩ := exists_of_bind_eq_ok written
      have entry : Balanced (name ++ ": " ++ first) :=
        ((balanced_keyText ofKey).append fun _ => rfl).append (balanced_jsonText value ofValue)
      exact List.forall_mem_cons.mpr ⟨entry, balanced_entryTexts rest ofOthers⟩

end

/-! ## Values -/

theorem balanced_literal {value : Value} {text : Text} (written : literal value = .ok text) :
    Balanced text := by
  unfold literal at written
  split at written
  · cases written
    exact balanced_quoted _
  · cases json : Json.text value with
    | error obstacle => simp [json, Except.mapError] at written
    | ok result =>
        simp only [json, Except.mapError, Except.ok.injEq] at written
        exact written ▸ balanced_jsonText value json

theorem balanced_textLiteral {value : Value} {text : Text}
    (written : textLiteral value = .ok text) :
    Balanced text := by
  unfold textLiteral at written
  split at written
  · cases written
    exact balanced_quoted _
  · cases written

end ApiClient.Code
