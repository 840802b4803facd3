import ApiClient.Text.Split
import Mathlib.Data.List.Infix

/-! Replacement of all occurrences of a text. Two replacements can change places where the texts
that they look for do not overlap with each other, nor with what the other one puts in. -/

namespace ApiClient.Text

variable {α : Type}

/-- One of the lists can start within the other one. -/
def Overlap (left right : List α) : Prop :=
  (∃ part ∈ left.tails, part ≠ [] ∧ (part <+: right ∨ right <+: part)) ∨
    ∃ part ∈ right.tails, part ≠ [] ∧ (part <+: left ∨ left <+: part)

instance [DecidableEq α] (left right : List α) : Decidable (Overlap left right) :=
  inferInstanceAs (Decidable ((∃ part ∈ left.tails, _) ∨ ∃ part ∈ right.tails, _))

example : Overlap "abc".toList "cd".toList ∧ ¬Overlap "abc".toList "ad".toList := by decide

private theorem Overlap.symm {left right : List α} (overlap : Overlap left right) :
    Overlap right left :=
  Or.symm overlap

/-- Lists that stand in the same place overlap, whatever one of them has before. -/
theorem Overlap.of_append_eq {before left right after rest : List α}
    (same : left ++ after = right ++ rest) (nonempty : left ≠ []) :
    Overlap (before ++ left) right := by
  refine .inl ⟨left, ?_, nonempty, ?_⟩
  · exact (List.mem_tails _ _).mpr (List.suffix_append before left)
  · exact List.prefix_or_prefix_of_prefix ⟨after, same⟩ (List.prefix_append right rest)

section

variable [DecidableEq α] {first c : α} {others replacement text rest : List α}

/-! ## Occurrences from the left -/

theorem remainder?_eq_none_iff : remainder? others text = none ↔ ¬others <+: text := by
  constructor
  · rintro missing ⟨rest, rfl⟩
    rw [remainder?_append] at missing
    cases missing
  · intro missing
    by_contra found
    obtain ⟨rest, found⟩ := Option.ne_none_iff_exists'.mp found
    exact missing ⟨rest, (remainder?_eq_some found).symm⟩

theorem occurs_append (sought before after : List α) :
    occurs sought (before ++ (sought ++ after)) = true := by
  induction before with
  | nil =>
      cases whole : sought ++ after with
      | nil =>
          obtain ⟨rfl, rfl⟩ := List.append_eq_nil_iff.mp whole
          rfl
      | cons c rest =>
          rw [List.nil_append, occurs, ← whole, remainder?_append]
          rfl
  | cons c before induction => rw [List.cons_append, occurs, induction, Bool.or_true]

private theorem replaceAll_append (rest : List α) :
    replaceAll first others replacement (first :: others ++ rest) =
      replacement ++ replaceAll first others replacement rest :=
  replaceAll_of_some (remainder?_append others rest)

theorem replaceAll_of_absent (missing : ¬first :: others <+: c :: text) :
    replaceAll first others replacement (c :: text) =
      c :: replaceAll first others replacement text := by
  by_cases isFirst : c = first
  · subst isFirst
    refine replaceAll_of_none (remainder?_eq_none_iff.mpr fun begins => missing ?_)
    exact List.cons_prefix_cons.mpr ⟨rfl, begins⟩
  · exact replaceAll_of_ne isFirst

/-- A text is empty, or begins with what is sought, or with a character that stays. -/
theorem occurrence_induction (first : α) (others : List α) {motive : List α → Prop}
    (nil : motive []) (occurrence : ∀ rest, motive rest → motive (first :: others ++ rest))
    (character : ∀ c text, ¬first :: others <+: c :: text → motive text → motive (c :: text))
    (text : List α) : motive text := by
  induction length : text.length using Nat.strongRecOn generalizing text with
  | ind n induction =>
    cases text with
    | nil => exact nil
    | cons c text =>
        by_cases begins : first :: others <+: c :: text
        · obtain ⟨rest, same⟩ := begins
          rw [← same] at length ⊢
          refine occurrence rest (induction _ ?_ rest rfl)
          rw [← length]
          simp only [List.length_append, List.length_cons]
          omega
        · refine character c text begins (induction _ ?_ text rfl)
          rw [← length]
          exact Nat.lt_succ_self _

/-- What does not overlap with the text sought is left as it is. -/
theorem replaceAll_append_of_not_overlap (apart : ¬Overlap text (first :: others)) (rest : List α) :
    replaceAll first others replacement (text ++ rest) =
      text ++ replaceAll first others replacement rest := by
  suffices parts : ∀ before after, text = before ++ after →
      replaceAll first others replacement (after ++ rest) =
        after ++ replaceAll first others replacement rest from parts [] text rfl
  intro before after whole
  induction after generalizing before with
  | nil => rfl
  | cons c after induction =>
      have missing : ¬first :: others <+: c :: (after ++ rest) := by
        rintro ⟨later, same⟩
        apply apart
        rw [whole]
        exact .of_append_eq same.symm (List.cons_ne_nil c after)
      rw [List.cons_append, replaceAll_of_absent missing,
        induction (before ++ [c]) (by simp [whole]), List.cons_append]

/-- What a result begins with stood in the text before, if nothing that was put in reaches into
it. -/
theorem prefix_of_prefix_replaceAll {start : List α}
    (apart : ∀ before part, start = before ++ part → part ≠ [] →
      ∀ rest, ¬part <+: replacement ++ rest)
    (begins : start <+: replaceAll first others replacement text) : start <+: text := by
  induction text using occurrence_induction first others generalizing start with
  | nil =>
      rwa [replaceAll] at begins
  | occurrence rest _ =>
      rw [replaceAll_append] at begins
      rcases eq_or_ne start [] with rfl | nonempty
      · exact List.nil_prefix
      · exact absurd begins (apart [] start rfl nonempty _)
  | character c text missing induction =>
      rw [replaceAll_of_absent missing] at begins
      cases start with
      | nil => exact List.nil_prefix
      | cons d start =>
          obtain ⟨same, further⟩ := List.cons_prefix_cons.mp begins
          refine List.cons_prefix_cons.mpr ⟨same, induction (fun before part whole => ?_) further⟩
          exact apart (d :: before) part (by rw [whole]; rfl)

end

/-! ## Two replacements -/

section

variable [DecidableEq α] {first second : α} {others more left right : List α}

/-- A character that begins no occurrence begins none after the other replacement either. -/
theorem not_prefix_replaceAll {c : α} {text : List α} (apart : ¬Overlap (first :: others) right)
    (missing : ¬first :: others <+: c :: text) :
    ¬first :: others <+: c :: replaceAll second more right text := by
  intro begins
  obtain ⟨same, further⟩ := List.cons_prefix_cons.mp begins
  refine missing (List.cons_prefix_cons.mpr ⟨same, prefix_of_prefix_replaceAll ?_ further⟩)
  rintro before part rfl nonempty rest ⟨after, together⟩
  rw [← List.cons_append] at apart
  exact apart (.of_append_eq together nonempty)

private theorem replaceAll_comm_occurrence (sought : ¬Overlap (first :: others) (second :: more))
    (apart : ¬Overlap (second :: more) left) {rest : List α}
    (later : replaceAll first others left (replaceAll second more right rest) =
      replaceAll second more right (replaceAll first others left rest)) :
    replaceAll first others left (replaceAll second more right (first :: others ++ rest)) =
      replaceAll second more right (replaceAll first others left (first :: others ++ rest)) := by
  rw [replaceAll_append_of_not_overlap sought, replaceAll_append, replaceAll_append,
    replaceAll_append_of_not_overlap (mt Overlap.symm apart), later]

/-- Replacements can change places if neither looks for a text that overlaps with what the other one
looks for or puts in. -/
theorem replaceAll_comm (sought : ¬Overlap (first :: others) (second :: more))
    (apart : ¬Overlap (first :: others) right) (apartLeft : ¬Overlap (second :: more) left)
    (text : List α) :
    replaceAll first others left (replaceAll second more right text) =
      replaceAll second more right (replaceAll first others left text) := by
  induction length : text.length using Nat.strongRecOn generalizing text with
  | ind n induction =>
    cases text with
    | nil => rw [replaceAll, replaceAll, replaceAll]
    | cons c text =>
        have shorter {start rest : List α} {d : α} (whole : d :: start ++ rest = c :: text) :
            rest.length < n := by
          rw [← length, ← whole]
          simp only [List.length_append, List.length_cons]
          omega
        by_cases begins : first :: others <+: c :: text
        · obtain ⟨rest, whole⟩ := begins
          rw [← whole]
          exact replaceAll_comm_occurrence sought apartLeft (induction _ (shorter whole) rest rfl)
        · by_cases beginsOther : second :: more <+: c :: text
          · obtain ⟨rest, whole⟩ := beginsOther
            rw [← whole]
            exact (replaceAll_comm_occurrence (mt Overlap.symm sought) apart
              (induction _ (shorter whole) rest rfl).symm).symm
          · rw [replaceAll_of_absent begins, replaceAll_of_absent beginsOther,
              replaceAll_of_absent (not_prefix_replaceAll apart begins),
              replaceAll_of_absent (not_prefix_replaceAll apartLeft beginsOther),
              induction _ (length ▸ Nat.lt_succ_self _) text rfl]

end

end ApiClient.Text
