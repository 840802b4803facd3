import ApiClient.Data.Json.Reader
import ApiClient.Proofs.Agreement
import ApiClient.Source.TypeExpression
import Mathlib.Data.List.TakeWhile
import Mathlib.Data.Nat.Digits.Defs

/-! What a reader of JSON makes of a text. Its values have the six forms of JSON, its mappings have
distinct texts as keys, and its integers are short enough to be written again, so that there is a
literal for each of them. -/

namespace ApiClient

open Value (digitLimit)

/-- A value as JSON has it. -/
inductive Value.IsJson : Value → Prop where
  | null : IsJson .null
  | bool (value : Bool) : IsJson (.bool value)
  | int {value : Int} (short : value.natAbs < 10 ^ digitLimit) : IsJson (.int value)
  | real (value : Binary64) : IsJson (.real value)
  | text (value : Text) : IsJson (.text value)
  | list {items : List Value} (each : ∀ item ∈ items, IsJson item) : IsJson (.list items)
  | map {entries : List (Value × Value)} (distinct : (entries.map (·.1)).Nodup)
      (named : ∀ entry ∈ entries, ∃ name, entry.1 = .text name)
      (each : ∀ entry ∈ entries, IsJson entry.2) : IsJson (.map entries)

/-- No value of JSON holds itself. -/
theorem Value.IsJson.opened_eq {value : Value} (json : value.IsJson) : value.opened = value := by
  cases json <;> rfl

attribute [simp] Value.IsJson.null Value.IsJson.bool Value.IsJson.real Value.IsJson.text

@[simp] theorem Value.isJson_list_iff {items : List Value} :
    (Value.list items).IsJson ↔ ∀ item ∈ items, item.IsJson := by
  constructor
  · rintro ⟨⟩
    assumption
  · exact .list

@[simp] theorem Value.isJson_map_iff {entries : List (Value × Value)} :
    (Value.map entries).IsJson ↔ (entries.map (·.1)).Nodup ∧
      (∀ entry ∈ entries, ∃ name, entry.1 = .text name) ∧ ∀ entry ∈ entries, entry.2.IsJson := by
  constructor
  · rintro ⟨⟩
    exact ⟨‹_›, ‹_›, ‹_›⟩
  · rintro ⟨distinct, named, each⟩
    exact .map distinct named each

theorem Text.ofString_inj {a b : String} : Text.ofString a = Text.ofString b ↔ a = b := by
  rw [ofString, ofString, ofCharacters, ofCharacters, List.map_inj_right (by simp),
    String.toList_inj]

/-! ## Writing -/

private theorem Value.exists_decimal {number : Int} (short : number.natAbs < 10 ^ digitLimit) :
    ∃ text, decimal? number = some text := by
  have length : (Text.ofNat number.natAbs).length ≤ digitLimit := by
    have digits : (Text.ofNat number.natAbs).length = (Nat.toDigits 10 number.natAbs).length := by
      simp [Text.ofNat, Text.ofString, Text.ofCharacters, toString, Nat.repr]
    rw [digits]
    exact Nat.toDigits_length 10 _ _ (by decide) short
  exact ⟨_, if_pos length⟩

section

variable {items : List Value} {entries : List (Value × Value)}

private theorem Json.exists_itemTexts (each : ∀ item ∈ items, ∃ text, Json.text item = .ok text) :
    ∃ texts, Json.itemTexts items = .ok texts := by
  induction items with
  | nil => exact ⟨[], rfl⟩
  | cons item rest induction =>
      obtain ⟨⟨text, first⟩, others⟩ := List.forall_mem_cons.mp each
      obtain ⟨texts, further⟩ := induction others
      exact ⟨text :: texts, by rw [Json.itemTexts, first, further]; rfl⟩

private theorem Json.exists_entryTexts (named : ∀ entry ∈ entries, ∃ name, entry.1 = .text name)
    (each : ∀ entry ∈ entries, ∃ text, Json.text entry.2 = .ok text) :
    ∃ texts, Json.entryTexts entries = .ok texts := by
  induction entries with
  | nil => exact ⟨[], rfl⟩
  | cons entry rest induction =>
      obtain ⟨key, value⟩ := entry
      obtain ⟨⟨name, rfl⟩, otherNames⟩ := List.forall_mem_cons.mp named
      obtain ⟨⟨text, first⟩, others⟩ := List.forall_mem_cons.mp each
      obtain ⟨texts, further⟩ := induction otherNames others
      exact ⟨_, by rw [Json.entryTexts, first, further]; rfl⟩

private theorem Value.exists_itemsShown (each : ∀ item ∈ items, ∃ text, item.shown? = some text) :
    ∃ texts, itemsShown? items = some texts := by
  induction items with
  | nil => exact ⟨[], rfl⟩
  | cons item rest induction =>
      obtain ⟨⟨text, first⟩, others⟩ := List.forall_mem_cons.mp each
      obtain ⟨texts, further⟩ := induction others
      exact ⟨text :: texts, by rw [itemsShown?, first, further]; rfl⟩

private theorem Value.exists_entriesShown (named : ∀ entry ∈ entries, ∃ name, entry.1 = .text name)
    (each : ∀ entry ∈ entries, ∃ text, entry.2.shown? = some text) :
    ∃ texts, entriesShown? entries = some texts := by
  induction entries with
  | nil => exact ⟨[], rfl⟩
  | cons entry rest induction =>
      obtain ⟨key, value⟩ := entry
      obtain ⟨⟨name, rfl⟩, otherNames⟩ := List.forall_mem_cons.mp named
      obtain ⟨⟨text, first⟩, others⟩ := List.forall_mem_cons.mp each
      obtain ⟨texts, further⟩ := induction otherNames others
      exact ⟨_, by rw [entriesShown?, first, further]; rfl⟩

end

namespace Value.IsJson

variable {value : Value}

private theorem exists_text (json : value.IsJson) : ∃ text, Json.text value = .ok text := by
  induction json with
  | null => exact ⟨_, rfl⟩
  | bool value => exact ⟨_, rfl⟩
  | int short =>
      obtain ⟨text, decimal⟩ := exists_decimal short
      exact ⟨text, by rw [Json.text, Json.integerText, decimal]⟩
  | real value => exact ⟨_, rfl⟩
  | text value => exact ⟨_, rfl⟩
  | list each induction =>
      obtain ⟨texts, items⟩ := Json.exists_itemTexts induction
      exact ⟨_, by rw [Json.text, items]; rfl⟩
  | map distinct named each induction =>
      obtain ⟨texts, entries⟩ := Json.exists_entryTexts named induction
      exact ⟨_, by rw [Json.text, entries]; rfl⟩

private theorem exists_shown (json : value.IsJson) : ∃ text, value.shown? = some text := by
  induction json with
  | null => exact ⟨_, rfl⟩
  | bool value => exact ⟨_, rfl⟩
  | int short =>
      obtain ⟨text, decimal⟩ := exists_decimal short
      exact ⟨text, by rw [shown?, decimal]⟩
  | real value => exact ⟨_, rfl⟩
  | text value => exact ⟨_, rfl⟩
  | list each induction =>
      obtain ⟨texts, items⟩ := exists_itemsShown induction
      exact ⟨_, by rw [shown?, items]; rfl⟩
  | map distinct named each induction =>
      obtain ⟨texts, entries⟩ := exists_entriesShown named induction
      exact ⟨_, by rw [shown?, entries]; rfl⟩

theorem exists_literal (json : value.IsJson) : ∃ text, literal value = .ok text := by
  obtain ⟨text, written⟩ := json.exists_text
  cases json with
  | text value => exact ⟨_, rfl⟩
  | _ => exact ⟨text, congrArg (Except.mapError Unwritable.noLiteral) written⟩

theorem exists_textLiteral (json : value.IsJson) : ∃ text, textLiteral value = .ok text := by
  obtain ⟨text, shown⟩ := json.exists_shown
  have asText : ∃ text, value.asText? = some text := by
    cases json with
    | text value => exact ⟨_, rfl⟩
    | _ => exact ⟨text, shown⟩
  obtain ⟨text, written⟩ := asText
  exact ⟨quoted text, by rw [textLiteral, written]⟩

theorem exists_memberLiteral (json : value.IsJson) (kind : Kind) :
    ∃ text, memberLiteral kind value = .ok text := by
  unfold memberLiteral
  split
  · exact ⟨_, rfl⟩
  · exact json.exists_textLiteral
  · exact json.exists_literal

end Value.IsJson

/-! ## Reading numbers -/

namespace Json

private theorem lt_pow_natural {digits : List Char} (each : ∀ c ∈ digits, isDigit c) :
    natural digits < 10 ^ digits.length := by
  have bounded (start : Nat) :
      digits.foldl (fun value c => 10 * value + (c.toNat - 0x30)) start <
        (start + 1) * 10 ^ digits.length := by
    induction digits generalizing start with
    | nil => simp
    | cons c rest induction =>
        have ⟨first, others⟩ := List.forall_mem_cons.mp each
        have digit : c.toNat ≤ 0x39 := by
          rw [isDigit, Bool.and_eq_true, decide_eq_true_eq, decide_eq_true_eq] at first
          exact first.2
        calc
          rest.foldl _ (10 * start + (c.toNat - 0x30))
              < (10 * start + (c.toNat - 0x30) + 1) * 10 ^ rest.length := induction others _
          _ ≤ (10 * (start + 1)) * 10 ^ rest.length := Nat.mul_le_mul_right _ (by omega)
          _ = (start + 1) * 10 ^ (rest.length + 1) := by ring
  exact (bounded 0).trans_eq (by rw [zero_add, one_mul])

/-- What is taken for the digits of an integer. -/
theorem isDigit_of_mem_whole {characters : List Char} {c : Char}
    (member : c ∈ match characters with
      | '0' :: _ => ['0']
      | rest => rest.takeWhile isDigit) : isDigit c := by
  split at member
  · rw [List.mem_singleton.mp member]
    rfl
  · exact List.mem_takeWhile_imp member

private theorem isJson_number {cursor after : Cursor} {value : Value}
    (succeeds : number cursor = .ok (value, after)) : value.IsJson := by
  unfold number at succeeds
  extract_lets negative unsigned whole afterWhole fraction afterFraction number at succeeds
  have each : ∀ c ∈ whole, isDigit c := fun c member => isDigit_of_mem_whole member
  split at succeeds
  · cases succeeds
  · split at succeeds
    · split at succeeds
      · cases succeeds
      · rename_i fits
        obtain ⟨rfl, -⟩ := Prod.mk.inj (Except.ok.inj succeeds)
        refine .int ?_
        have size : (if negative = true then -number else number).natAbs = natural whole := by
          split <;> simp [number]
        rw [size]
        calc
          natural whole < 10 ^ whole.length := lt_pow_natural each
          _ ≤ 10 ^ digitLimit := Nat.pow_le_pow_right (by decide) (Nat.not_lt.mp fits)
    · obtain ⟨rfl, -⟩ := Prod.mk.inj (Except.ok.inj succeeds)
      exact .real _

/-! ## Reading values -/

/-- The members of an object, as far as they are read. -/
structure AreMembers (entries : List (Value × Value)) : Prop where
  distinct : (entries.map (·.1)).Nodup
  named : ∀ entry ∈ entries, ∃ name, entry.1 = .text name
  each : ∀ entry ∈ entries, entry.2.IsJson

private theorem AreMembers.isJson {entries : List (Value × Value)} (members : AreMembers entries) :
    (Value.map entries).IsJson :=
  .map members.distinct members.named members.each

private theorem AreMembers.nil : AreMembers [] :=
  ⟨.nil, by simp, by simp⟩

/-- A new value stands under the new key, or under a key that was there. -/
theorem mem_put {key value : Value} {entries : List (Value × Value)} {entry : Value × Value}
    (member : entry ∈ Value.put key value entries) :
    entry ∈ entries ∨ (entry.1 = key ∨ entry.1 ∈ entries.map (·.1)) ∧ entry.2 = value := by
  induction entries with
  | nil =>
      rw [Value.put, List.mem_singleton] at member
      rw [member]
      exact .inr ⟨.inl rfl, rfl⟩
  | cons first rest induction =>
      rw [Value.put] at member
      split at member
      · rcases List.mem_cons.mp member with rfl | member
        · exact .inr ⟨.inr List.mem_cons_self, rfl⟩
        · exact .inl (List.mem_cons_of_mem _ member)
      · rcases List.mem_cons.mp member with rfl | member
        · exact .inl List.mem_cons_self
        · rcases induction member with member | ⟨key | member, value⟩
          · exact .inl (List.mem_cons_of_mem _ member)
          · exact .inr ⟨.inl key, value⟩
          · exact .inr ⟨.inr (List.mem_cons_of_mem _ member), value⟩

private theorem nodup_put {entries : List (Value × Value)} {name : Text} (value : Value)
    (distinct : (entries.map (·.1)).Nodup)
    (named : ∀ entry ∈ entries, ∃ name, entry.1 = .text name) :
    ((Value.put (.text name) value entries).map (·.1)).Nodup := by
  induction entries with
  | nil => exact List.nodup_cons.mpr ⟨List.not_mem_nil, .nil⟩
  | cons first rest induction =>
      obtain ⟨⟨other, key⟩, others⟩ := List.forall_mem_cons.mp named
      rw [List.map_cons, List.nodup_cons] at distinct
      rw [Value.put]
      split
      · exact List.nodup_cons.mpr distinct
      · rename_i different
        refine List.nodup_cons.mpr ⟨fun again => ?_, induction distinct.2 others⟩
        obtain ⟨entry, member, same⟩ := List.mem_map.mp again
        dsimp only at same
        rcases mem_put member with there | ⟨isNew | there, -⟩
        · exact distinct.1 (List.mem_map.mpr ⟨entry, there, same⟩)
        · -- The name is that of the first entry, whose value would have been replaced.
          rw [← same, isNew] at different
          exact different (beq_self_eq_true name)
        · exact distinct.1 (same ▸ there)

private theorem AreMembers.put {entries : List (Value × Value)} (members : AreMembers entries)
    (name : Text) {value : Value} (json : value.IsJson) :
    AreMembers (Value.put (.text name) value entries) := by
  refine ⟨nodup_put value members.distinct members.named, fun entry member => ?_,
    fun entry member => ?_⟩
  · rcases mem_put member with there | ⟨isNew | there, -⟩
    · exact members.named entry there
    · exact ⟨name, isNew⟩
    · obtain ⟨other, there, same⟩ := List.mem_map.mp there
      exact same ▸ members.named other there
  · rcases mem_put member with there | ⟨-, isNew⟩
    · exact members.each entry there
    · exact isNew ▸ json

private theorem isJson_word {word : List Char × Value} (member : word ∈ words) : word.2.IsJson := by
  simp only [words, List.mem_cons, List.not_mem_nil, or_false] at member
  rcases member with rfl | rfl | rfl | rfl | rfl | rfl
  · exact .null
  · exact .bool true
  · exact .bool false
  all_goals exact .real _

/-- What the reader of values, members and elements makes within some fuel. -/
structure ReadsJson (fuel : Nat) : Prop where
  value : ∀ {room cursor result}, Json.value fuel room cursor = .ok result → result.1.IsJson
  members : ∀ {room done cursor result}, AreMembers done →
    Json.members fuel room done cursor = .ok result → AreMembers result.1
  elements : ∀ {room done cursor result}, (∀ item ∈ done, item.IsJson) →
    Json.elements fuel room done cursor = .ok result → ∀ item ∈ result.1, Value.IsJson item

namespace ReadsJson

variable {fuel room : Nat} {cursor : Cursor}

/-- Without fuel there is no result. -/
theorem zero : ReadsJson 0 := by
  refine ⟨fun succeeds => ?_, fun _ succeeds => ?_, fun _ succeeds => ?_⟩
  · rw [Json.value, Cursor.refuse] at succeeds
    cases succeeds
  · rw [Json.members, Cursor.refuse] at succeeds
    cases succeeds
  · rw [Json.elements, Cursor.refuse] at succeeds
    cases succeeds

/-- A value is a text, what is between brackets, a word or a number. -/
theorem value_succ (reads : ReadsJson fuel) {result : Value × Cursor}
    (succeeds : Json.value (fuel + 1) room cursor = .ok result) : result.1.IsJson := by
  rw [Json.value] at succeeds
  split at succeeds
  · cases succeeds
  · obtain ⟨_, _, ⟨⟩⟩ := exists_of_bind_eq_ok succeeds
    exact .text _
  · dsimp only at succeeds
    split at succeeds
    · cases succeeds
    · split at succeeds
      · cases succeeds
        exact AreMembers.nil.isJson
      · obtain ⟨_, inside, ⟨⟩⟩ := exists_of_bind_eq_ok succeeds
        exact (reads.members .nil inside).isJson
  · dsimp only at succeeds
    split at succeeds
    · cases succeeds
    · split at succeeds
      · cases succeeds
        exact .list (by simp)
      · obtain ⟨_, inside, ⟨⟩⟩ := exists_of_bind_eq_ok succeeds
        exact .list (reads.elements (by simp) inside)
  · split at succeeds
    · rename_i found
      cases succeeds
      exact isJson_word (List.mem_of_find?_eq_some found)
    · exact isJson_number succeeds

/-- One more member is put among those before it, then come the others. -/
theorem members_succ (reads : ReadsJson fuel) {done : List (Value × Value)}
    {result : List (Value × Value) × Cursor} (ofDone : AreMembers done)
    (succeeds : Json.members (fuel + 1) room done cursor = .ok result) : AreMembers result.1 := by
  rw [Json.members] at succeeds
  split at succeeds
  · obtain ⟨⟨name, afterName⟩, -, succeeds⟩ := exists_of_bind_eq_ok succeeds
    dsimp only at succeeds
    split at succeeds
    · cases succeeds
    · obtain ⟨⟨value, afterValue⟩, ofValue, succeeds⟩ := exists_of_bind_eq_ok succeeds
      have further := ofDone.put name (reads.value ofValue)
      dsimp only at succeeds
      split at succeeds
      · cases succeeds
        exact further
      · exact reads.members further succeeds
      · cases succeeds
  · cases succeeds

/-- One more element stands before those read so far, which are kept in reverse. -/
theorem elements_succ (reads : ReadsJson fuel) {done : List Value} {result : List Value × Cursor}
    (ofDone : ∀ item ∈ done, item.IsJson)
    (succeeds : Json.elements (fuel + 1) room done cursor = .ok result) :
    ∀ item ∈ result.1, item.IsJson := by
  rw [Json.elements] at succeeds
  obtain ⟨⟨value, afterValue⟩, ofValue, succeeds⟩ := exists_of_bind_eq_ok succeeds
  have further : ∀ item ∈ value :: done, item.IsJson :=
    List.forall_mem_cons.mpr ⟨reads.value ofValue, ofDone⟩
  dsimp only at succeeds
  split at succeeds
  · cases succeeds
    intro item member
    exact further item (List.mem_reverse.mp member)
  · exact reads.elements further succeeds
  · cases succeeds

end ReadsJson

private theorem readsJson (fuel : Nat) : ReadsJson fuel := by
  induction fuel with
  | zero => exact .zero
  | succ fuel induction =>
      exact ⟨induction.value_succ, induction.members_succ, induction.elements_succ⟩

/-- Whatever can be read is a value of JSON. -/
theorem isJson_of_read {characters : List Char} {value : Value}
    (succeeds : read characters = .ok value) : value.IsJson := by
  unfold read at succeeds
  dsimp only at succeeds
  rw [mapError_eq_ok_iff] at succeeds
  split at succeeds
  · cases succeeds
  · obtain ⟨⟨value, after⟩, ofValue, succeeds⟩ := exists_of_bind_eq_ok succeeds
    dsimp only at succeeds
    split at succeeds
    · cases succeeds
      exact (readsJson _).value ofValue
    · cases succeeds

end Json

end ApiClient
