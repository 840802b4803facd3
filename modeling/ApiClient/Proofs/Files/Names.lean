import ApiClient.Proofs.Files.Course

/-! File names by their segments: what a slash divides, what stands after the last one, and what
remains of a name without its suffix. -/

namespace ApiClient

/-! ## Parts of texts -/

namespace Text

variable {α : Type} [DecidableEq α] {separator : α}

/-- A text with a separator is divided by the last one. -/
theorem exists_afterLast {text : List α} (member : separator ∈ text) :
    ∃ before, text = before ++ separator :: afterLast separator text ∧
      separator ∉ afterLast separator text := by
  obtain ⟨after, before, reversed, plain⟩ :=
    List.eq_append_cons_of_mem (List.mem_reverse.mpr member)
  have divided : text = before.reverse ++ separator :: after.reverse := by
    rw [← List.reverse_reverse text, reversed]
    simp
  have rest : separator ∉ after.reverse := by rwa [List.mem_reverse]
  rw [divided, afterLast_append_cons, afterLast_of_not_mem rest]
  exact ⟨before.reverse, rfl, rest⟩

end Text

private theorem split_joined {parts : List Text} (nonempty : parts ≠ [])
    (undivided : ∀ part ∈ parts, CodePoint.char '/' ∉ part) :
    Text.split (· == CodePoint.char '/') (joined "/" parts) = parts := by
  induction parts with
  | nil => exact absurd rfl nonempty
  | cons part rest induction =>
      obtain ⟨here, further⟩ := List.forall_mem_cons.mp undivided
      cases rest with
      | nil => exact Text.split_of_not_mem here
      | cons next rest =>
          have divided : joined "/" (part :: next :: rest) =
              part ++ CodePoint.char '/' :: joined "/" (next :: rest) :=
            List.append_assoc part ("/" : Text) _
          rw [divided, Text.split_append_cons, Text.split_of_not_mem here,
            induction (List.cons_ne_nil _ _) further, List.singleton_append]

theorem joined_split (text : Text) :
    joined "/" (Text.split (· == CodePoint.char '/') text) = text := by
  suffices same : ∀ parts : List Text, joined "/" parts = Text.unsplit (.char '/') parts by
    rw [same, Text.unsplit_split]
  intro parts
  induction parts with
  | nil => rfl
  | cons part rest induction =>
      cases rest with
      | nil => rfl
      | cons next rest =>
          change part ++ ("/" : Text) ++ joined "/" (next :: rest) =
            part ++ CodePoint.char '/' :: Text.unsplit (.char '/') (next :: rest)
          rw [induction]
          exact List.append_assoc part ("/" : Text) _

namespace Path

/-! ## Segments -/

theorem segmentsOf_append_slash (before after : Text) :
    segmentsOf (before ++ .char '/' :: after) = segmentsOf before ++ segmentsOf after := by
  rw [segmentsOf, Text.split_append_cons, List.filter_append]
  rfl

theorem segmentsOf_joined {steps : List Text} (each : ∀ step ∈ steps, IsStep step) :
    segmentsOf (joined "/" steps) = steps := by
  cases steps with
  | nil => rfl
  | cons step rest =>
      rw [segmentsOf,
        split_joined (List.cons_ne_nil _ _) fun part member => (each part member).undivided,
        List.filter_eq_self]
      intro part member
      obtain ⟨nonempty, -, notDot⟩ := each part member
      exact Bool.and_eq_true_iff.mpr ⟨bne_iff_ne.mpr nonempty, bne_iff_ne.mpr notDot⟩

/-- A name is that of a relative path unless it begins with a slash. -/
theorem root_ofText_eq_none_iff (name : Text) :
    (ofText name).root = .none ↔ name.head? ≠ some (.char '/') := by
  cases name with
  | nil => decide
  | cons c rest =>
      by_cases slash : c = .char '/'
      · subst slash
        unfold ofText Root.ofText
        split <;> simp_all
      · have none : Root.ofText (c :: rest) = .none := by
          unfold Root.ofText
          split <;> simp_all
        simp [ofText, none, slash]

/-! ## Suffixes -/

theorem splitSuffix_append (name : Text) : (splitSuffix name).1 ++ (splitSuffix name).2 = name := by
  unfold splitSuffix
  dsimp only
  split
  · exact List.append_nil name
  · rename_i longer
    by_cases dot : CodePoint.char '.' ∈ name
    · obtain ⟨before, divided, -⟩ := Text.exists_afterLast dot
      generalize Text.afterLast (.char '.') name = suffix at divided
      subst divided
      have length : (before ++ CodePoint.char '.' :: suffix).length - suffix.length - 1 =
          before.length := by
        rw [List.length_append, List.length_cons]
        omega
      rw [length, List.take_left]
      rfl
    · rw [Text.afterLast_of_not_mem dot] at longer
      omega

theorem splitSuffix_fst_ne_nil {name : Text} (nonempty : name ≠ []) :
    (splitSuffix name).1 ≠ [] := by
  unfold splitSuffix
  dsimp only
  split
  · exact nonempty
  · intro nothing
    rw [List.take_eq_nil_iff] at nothing
    rcases nothing with nothing | nothing
    · omega
    · exact nonempty nothing

theorem not_mem_splitSuffix_fst {name : Text} {c : CodePoint} (absent : c ∉ name) :
    c ∉ (splitSuffix name).1 :=
  fun member => absent (splitSuffix_append name ▸ List.mem_append_left _ member)

end Path

end ApiClient
