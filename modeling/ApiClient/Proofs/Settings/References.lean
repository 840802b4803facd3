import ApiClient.Proofs.Agreement
import ApiClient.Settings.Expansion
import Mathlib.Data.List.TakeWhile

/-! References to variables as they are written, and texts as they are read: from the left, with
a reference wherever one begins. Every text is read in exactly one way. -/

namespace ApiClient.Expansion

/-! ## Writing -/

namespace Reference

/-- What a reference holds after the name. -/
def fallbackText : Option Text → Text
  | none => []
  | some fallback => ":-" ++ fallback

/-- A reference after its opening. -/
def content (reference : Reference) : Text :=
  reference.name ++ (fallbackText reference.fallback ++ "\x7d")

def text (reference : Reference) : Text :=
  "$\x7b" ++ reference.content

example : text ⟨"A", some "b"⟩ = "$\x7bA:-b\x7d" := by decide

/-- No bracket or colon is taken for a part of the name, and no bracket for a part of the
fallback. -/
structure IsDelimited (reference : Reference) : Prop where
  name : ∀ c ∈ reference.name, isNamePart c
  fallback : ∀ text ∈ reference.fallback, ∀ c ∈ text, isFallbackPart c

/-- What counts as a reference has a name too. -/
structure IsProper (reference : Reference) : Prop extends IsDelimited reference where
  named : reference.name ≠ []

end Reference

/-! ## Reading -/

/-- A text by its parts, from the left. Where a reference begins, it is one part with all its
characters; every other character is a part of its own. -/
inductive Reads : Text → List Part → Prop where
  | done : Reads [] []
  | reference {reference : Reference} {text : Text} {parts : List Part}
      (proper : reference.IsProper)
      (further : Reads text parts) : Reads (reference.text ++ text) (.reference reference :: parts)
  | plain {c : CodePoint} {text : Text} {parts : List Part}
      (alone : ∀ reference : Reference, reference.IsProper → ¬reference.text <+: c :: text)
      (further : Reads text parts) : Reads (c :: text) (.plain c :: parts)

private theorem span_append {among : CodePoint → Bool} {leading : Text}
    (each : ∀ d ∈ leading, among d) {c : CodePoint} (ends : among c = false) (rest : Text) :
    (leading ++ c :: rest).takeWhile among = leading ∧
      (leading ++ c :: rest).dropWhile among = c :: rest := by
  rw [List.takeWhile_append_of_pos each, List.dropWhile_append_of_pos each,
    List.takeWhile_cons_of_neg (by simp [ends]), List.dropWhile_cons_of_neg (by simp [ends]),
    List.append_nil]
  exact ⟨rfl, rfl⟩

/-- A reference is read as it is written. -/
theorem reference?_content {reference : Reference} (delimited : reference.IsDelimited)
    (rest : Text) :
    reference? (reference.content ++ rest) = some (reference, rest) := by
  obtain ⟨name, fallback⟩ := reference
  obtain ⟨ofName, ofFallback⟩ := delimited
  cases fallback with
  | none =>
      have shape : Reference.content ⟨name, none⟩ ++ rest = name ++ .char '\x7d' :: rest :=
        List.append_assoc name ("\x7d" : Text) rest
      have ends : isNamePart (.char '\x7d') = false := rfl
      obtain ⟨taken, left⟩ := span_append ofName ends rest
      rw [shape, reference?, taken, left]
      rfl
  | some fallback =>
      have shape : Reference.content ⟨name, some fallback⟩ ++ rest =
          name ++ .char ':' :: .char '-' :: (fallback ++ .char '\x7d' :: rest) := by
        simp [Reference.content, Reference.fallbackText, Text.ofString, Text.ofCharacters]
      have endsName : isNamePart (.char ':') = false := rfl
      have ends : isFallbackPart (.char '\x7d') = false := rfl
      obtain ⟨taken, left⟩ :=
        span_append ofName endsName (.char '-' :: (fallback ++ .char '\x7d' :: rest))
      obtain ⟨takenThen, leftThen⟩ := span_append (ofFallback fallback rfl) ends rest
      simp only [shape, reference?, taken, left, takenThen, leftThen]

/-- What is read as a reference is written so. -/
theorem eq_content_of_reference? {text rest : Text} {reference : Reference}
    (found : reference? text = some (reference, rest)) :
    text = reference.content ++ rest ∧ reference.IsDelimited := by
  have whole := List.takeWhile_append_dropWhile (p := isNamePart) (l := text)
  have ofName : ∀ c ∈ text.takeWhile isNamePart, isNamePart c := fun c member =>
    List.mem_takeWhile_imp member
  unfold reference? at found
  dsimp only at found
  split at found
  · rename_i left
    cases found
    rw [left] at whole
    refine ⟨whole.symm.trans ?_, ofName, nofun⟩
    exact (List.append_assoc _ ("\x7d" : Text) rest).symm
  · rename_i more left
    have behind := List.takeWhile_append_dropWhile (p := isFallbackPart) (l := more)
    split at found
    · rename_i leftThen
      cases found
      rw [leftThen] at behind
      rw [left, ← behind] at whole
      refine ⟨whole.symm.trans ?_, ofName, ?_⟩
      · simp [Reference.content, Reference.fallbackText, Text.ofString, Text.ofCharacters]
      · rintro fallback ⟨⟩ c member
        exact List.mem_takeWhile_imp member
    · cases found
  · cases found

/-! ## Parts -/

/-- The parts of a text in which references have names. -/
def namedParts (text : Text) : List Part :=
  parts (· != []) text

private theorem namedParts_reference {reference : Reference} (proper : reference.IsProper)
    (text : Text) :
    namedParts (reference.text ++ text) = .reference reference :: namedParts text := by
  have found := reference?_content proper.toIsDelimited text
  have named : (reference.name != []) = true := bne_iff_ne.mpr proper.named
  change parts _ (.char '$' :: .char '\x7b' :: (reference.content ++ text)) = _
  rw [parts]
  split
  · rename_i other rest same
    cases found.symm.trans same
    rw [if_pos named]
    rfl
  · rename_i missing
    cases found.symm.trans missing

private theorem namedParts_plain {c : CodePoint} {text : Text}
    (alone : ∀ reference : Reference, reference.IsProper → ¬reference.text <+: c :: text) :
    namedParts (c :: text) = .plain c :: namedParts text := by
  rw [namedParts, parts.eq_def]
  split
  · rename_i nothing
    cases nothing
  · rename_i rest opening
    obtain ⟨rfl, rfl⟩ := List.cons.inj opening
    split
    · rename_i reference behind found
      split
      · rename_i named
        obtain ⟨rfl, delimited⟩ := eq_content_of_reference? found
        exact absurd (List.prefix_append reference.text behind)
          (alone reference ⟨delimited, bne_iff_ne.mp named⟩)
      · rfl
    · rfl
  · rename_i other rest _ same
    obtain ⟨rfl, rfl⟩ := List.cons.inj same
    rfl

theorem reads_namedParts (text : Text) : Reads text (namedParts text) := by
  induction size : text.length using Nat.strongRecOn generalizing text with
  | ind bound induction =>
    subst size
    cases text with
    | nil =>
        rw [namedParts, parts]
        exact .done
    | cons c text =>
        by_cases begins : ∃ reference : Reference, reference.IsProper ∧ reference.text <+: c :: text
        · obtain ⟨reference, proper, rest, written⟩ := begins
          rw [← written, namedParts_reference proper]
          refine .reference proper (induction _ ?_ rest rfl)
          rw [← written, List.length_append]
          exact Nat.lt_add_of_pos_left (Nat.succ_pos _)
        · have alone : ∀ reference : Reference, reference.IsProper →
              ¬reference.text <+: c :: text :=
            fun reference proper written => begins ⟨reference, proper, written⟩
          rw [namedParts_plain alone]
          exact .plain alone (induction _ (Nat.lt_succ_self _) text rfl)

/-- A text is read in one way only. -/
theorem reads_iff {text : Text} {parts : List Part} :
    Reads text parts ↔ namedParts text = parts := by
  constructor
  · intro reads
    induction reads with
    | done =>
        rw [namedParts, Expansion.parts]
    | reference proper _ induction => rw [namedParts_reference proper, induction]
    | plain alone _ induction => rw [namedParts_plain alone, induction]
  · rintro rfl
    exact reads_namedParts text

end ApiClient.Expansion
