/-! A text, or any other list, cut at every element of a class. The parts are one more than the
separators. -/

namespace ApiClient.Text

variable {α : Type}

def split (separates : α → Bool) : List α → List (List α)
  | [] => [[]]
  | c :: rest =>
    if separates c then [] :: split separates rest
    else
      match split separates rest with
      | [] => [[c]]
      | part :: more => (c :: part) :: more

example : split (· == '/') "a//b".toList = [['a'], [], ['b']] := by decide

theorem split_ne_nil (separates : α → Bool) (text : List α) : split separates text ≠ [] := by
  cases text with
  | nil => simp [split]
  | cons c rest =>
    rw [split]
    split
    · simp
    · split <;> simp

theorem not_separates_of_mem_split {separates : α → Bool} {text part : List α}
    (member : part ∈ split separates text) : ∀ {c}, c ∈ part → separates c = false := by
  induction text generalizing part with
  | nil => simp_all [split]
  | cons d rest induction =>
    intro c inPart
    rw [split] at member
    split at member
    · rcases List.mem_cons.mp member with rfl | member
      · simp at inPart
      · exact induction member inPart
    · rename_i stays
      rw [Bool.not_eq_true] at stays
      split at member
      · simp_all
      · rename_i first more parts
        rcases List.mem_cons.mp member with rfl | member
        · rcases List.mem_cons.mp inPart with rfl | inPart
          · exact stays
          · exact induction (parts ▸ List.mem_cons_self) inPart
        · exact induction (parts ▸ List.mem_cons_of_mem first member) inPart

/-- The text of which these are the parts. -/
def unsplit (separator : α) : List (List α) → List α
  | [] => []
  | [part] => part
  | part :: rest => part ++ separator :: unsplit separator rest

theorem unsplit_split [DecidableEq α] (separator : α) (text : List α) :
    unsplit separator (split (· == separator) text) = text := by
  induction text with
  | nil => rfl
  | cons c rest induction =>
    rw [split]
    have nonempty := split_ne_nil (· == separator) rest
    split
    · rename_i found
      cases parts : split (· == separator) rest with
      | nil => exact absurd parts nonempty
      | cons part more =>
        rw [parts] at induction
        simp_all [unsplit]
    · cases parts : split (· == separator) rest with
      | nil => exact absurd parts nonempty
      | cons part more =>
        rw [parts] at induction
        cases more <;> simp_all [unsplit]

/-- Cut a text before the first character of a class. -/
def cut (ends : α → Bool) (text : List α) : List α × List α :=
  (text.takeWhile (!ends ·), text.dropWhile (!ends ·))

theorem cut_length_le (ends : α → Bool) (text : List α) :
    (cut ends text).2.length ≤ text.length :=
  (List.dropWhile_suffix (!ends ·)).length_le

/-- What follows the last separator, or the whole text where there is none. -/
def afterLast [BEq α] (separator : α) (text : List α) : List α :=
  (split (· == separator) text).getLast (split_ne_nil _ text)

example : afterLast '/' "#/a/b".toList = ['b'] := by decide

section

variable [DecidableEq α] {separator : α}

theorem split_append_cons (before after : List α) :
    split (· == separator) (before ++ separator :: after) =
      split (· == separator) before ++ split (· == separator) after := by
  induction before with
  | nil => simp [split]
  | cons c before induction =>
    rw [List.cons_append, split, split, induction]
    split
    · rfl
    · cases parts : split (· == separator) before with
      | nil => exact absurd parts (split_ne_nil _ _)
      | cons part more => rfl

theorem split_of_not_mem {text : List α} (plain : separator ∉ text) :
    split (· == separator) text = [text] := by
  induction text with
  | nil => rfl
  | cons c rest induction =>
    rw [List.mem_cons, not_or] at plain
    rw [split, if_neg (by simpa using Ne.symm plain.1), induction plain.2]

theorem afterLast_append_cons (before after : List α) :
    afterLast separator (before ++ separator :: after) = afterLast separator after := by
  simp only [afterLast, split_append_cons]
  exact List.getLast_append_of_ne_nil _ (split_ne_nil _ _)

theorem afterLast_of_not_mem {text : List α} (plain : separator ∉ text) :
    afterLast separator text = text := by
  simp [afterLast, split_of_not_mem plain]

end

/-! ## Replacement -/

/-- What remains of a text after a leading part. -/
def remainder? [DecidableEq α] : List α → List α → Option (List α)
  | [], text => some text
  | _ :: _, [] => none
  | c :: leading, d :: text => if c = d then remainder? leading text else none

theorem remainder?_length [DecidableEq α] {leading text rest : List α}
    (found : remainder? leading text = some rest) : rest.length + leading.length = text.length := by
  induction leading generalizing text with
  | nil => simp_all [remainder?]
  | cons c leading induction =>
    cases text with
    | nil => simp [remainder?] at found
    | cons d text =>
      simp only [remainder?] at found
      split at found
      · have := induction found
        simp only [List.length_cons]
        omega
      · simp at found

theorem remainder?_eq_some [DecidableEq α] {leading text rest : List α}
    (found : remainder? leading text = some rest) : text = leading ++ rest := by
  induction leading generalizing text with
  | nil => simpa [remainder?] using found
  | cons c leading induction =>
    cases text with
    | nil => simp [remainder?] at found
    | cons d text =>
      simp only [remainder?] at found
      split at found
      · rename_i same
        rw [induction found, same, List.cons_append]
      · simp at found

@[simp] theorem remainder?_append [DecidableEq α] (leading rest : List α) :
    remainder? leading (leading ++ rest) = some rest := by
  induction leading with
  | nil => rfl
  | cons c leading induction => simpa [remainder?] using induction

/-- Put a text in place of every occurrence of another, found from the left and apart from each
other. The text sought is given by its first character and the rest, and so is never empty. -/
def replaceAll [DecidableEq α] (first : α) (others replacement : List α) : List α → List α
  | [] => []
  | c :: text =>
    if c = first then
      match _found : remainder? others text with
      | some rest => replacement ++ replaceAll first others replacement rest
      | none => c :: replaceAll first others replacement text
    else c :: replaceAll first others replacement text
termination_by text => text.length
decreasing_by
  · have := remainder?_length _found
    simp only [List.length_cons]
    omega
  · simp
  · simp

section

variable [DecidableEq α] {first c : α} {others replacement text rest : List α}

theorem replaceAll_of_ne (notFirst : c ≠ first) :
    replaceAll first others replacement (c :: text) =
      c :: replaceAll first others replacement text := by
  rw [replaceAll, if_neg notFirst]

theorem replaceAll_of_none (missing : remainder? others text = none) :
    replaceAll first others replacement (first :: text) =
      first :: replaceAll first others replacement text := by
  rw [replaceAll, if_pos rfl]
  split
  · simp_all
  · rfl

theorem replaceAll_of_some (found : remainder? others text = some rest) :
    replaceAll first others replacement (first :: text) =
      replacement ++ replaceAll first others replacement rest := by
  rw [replaceAll, if_pos rfl]
  split
  · simp_all
  · simp_all

theorem replaceAll_append_of_not_mem (apart : first ∉ text) (rest : List α) :
    replaceAll first others replacement (text ++ rest) =
      text ++ replaceAll first others replacement rest := by
  induction text with
  | nil => rfl
  | cons c text induction =>
    rw [List.mem_cons, not_or] at apart
    rw [List.cons_append, replaceAll_of_ne (Ne.symm apart.1), induction apart.2, List.cons_append]

/-- A result begins as the text does, or as the replacement. -/
theorem head?_replaceAll (begins : replacement.head? = some c) (text : List α) :
    (replaceAll first others replacement text).head? = text.head? ∨
      text.head? = some first ∧ (replaceAll first others replacement text).head? = some c := by
  cases text with
  | nil =>
    rw [replaceAll]
    exact .inl rfl
  | cons d text =>
    by_cases isFirst : d = first
    · subst isFirst
      cases found : remainder? others text with
      | none =>
        rw [replaceAll_of_none found]
        exact .inl rfl
      | some rest =>
        rw [replaceAll_of_some found, List.head?_append, begins]
        exact .inr ⟨rfl, rfl⟩
    · rw [replaceAll_of_ne isFirst]
      exact .inl rfl

end

/-- Whether a text occurs in another. -/
def occurs [DecidableEq α] (sought : List α) : List α → Bool
  | [] => sought.isEmpty
  | c :: text => (remainder? sought (c :: text)).isSome || occurs sought text

end ApiClient.Text
