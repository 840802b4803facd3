import ApiClient.Log
import Mathlib.Data.List.Forall2
import Mathlib.Data.Option.Basic

/-! Two computations side by side. They agree when both fail in the same way or both succeed with
results that are related. -/

namespace ApiClient

section

variable {α β : Type} {related : α → β → Prop}

theorem forall_mem_of_forall₂ {property : α → Prop} (each : ∀ a b, related a b → property a)
    {items : List α} {others : List β} (alike : List.Forall₂ related items others) :
    ∀ item ∈ items, property item := by
  induction alike with
  | nil => simp
  | cons first _ induction => exact List.forall_mem_cons.mpr ⟨each _ _ first, induction⟩

theorem forall_mem_right_of_forall₂ {property : β → Prop} {items : List α} {others : List β}
    (alike : List.Forall₂ related items others)
    (each : ∀ item ∈ items, ∀ other, related item other → property other) :
    ∀ other ∈ others, property other := by
  induction alike with
  | nil => simp
  | cons first _ induction =>
      obtain ⟨here, further⟩ := List.forall_mem_cons.mp each
      exact List.forall_mem_cons.mpr ⟨here _ first, induction further⟩

theorem forall₂_comp {γ : Type} {further : β → γ → Prop} {items : List α} {others : List β}
    {results : List γ} (alike : List.Forall₂ related items others)
    (onward : List.Forall₂ further others results) :
    List.Forall₂ (fun a c => ∃ b, related a b ∧ further b c) items results := by
  induction alike generalizing results with
  | nil =>
      cases onward
      exact .nil
  | cons first _ induction =>
      obtain _ | ⟨next, onward⟩ := onward
      exact .cons ⟨_, first, next⟩ (induction onward)

theorem isEmpty_eq_of_forall₂ {items : List α} {others : List β}
    (alike : List.Forall₂ related items others) : items.isEmpty = others.isEmpty := by
  cases alike <;> rfl

theorem any_eq_of_forall₂ {property : α → Bool} {other : β → Bool}
    (same : ∀ a b, related a b → property a = other b) {items : List α} {others : List β}
    (alike : List.Forall₂ related items others) : items.any property = others.any other := by
  induction alike with
  | nil => rfl
  | cons first _ induction => rw [List.any_cons, List.any_cons, same _ _ first, induction]

theorem map_eq_of_forall₂ {γ : Type} {image : α → γ} {other : β → γ}
    (same : ∀ a b, related a b → image a = other b) {items : List α} {others : List β}
    (alike : List.Forall₂ related items others) : items.map image = others.map other := by
  induction alike with
  | nil => rfl
  | cons first _ induction => rw [List.map_cons, List.map_cons, same _ _ first, induction]

theorem foldl_eq_of_forall₂ {γ : Type} {step : γ → α → γ} {other : γ → β → γ}
    (same : ∀ state a b, related a b → step state a = other state b) {items : List α}
    {others : List β} (alike : List.Forall₂ related items others) (start : γ) :
    items.foldl step start = others.foldl other start := by
  induction alike generalizing start with
  | nil => rfl
  | cons first _ induction =>
      rw [List.foldl_cons, List.foldl_cons, same _ _ _ first]
      exact induction _

theorem isSome_eq_of_rel {first : Option α} {second : Option β}
    (alike : Option.Rel related first second) : first.isSome = second.isSome := by
  cases alike <;> rfl

end

/-- What two outcomes have in common. -/
inductive Agree {ε α β : Type} (related : α → β → Prop) : Except ε α → Except ε β → Prop where
  | success {first : α} {second : β} (results : related first second) :
      Agree related (.ok first) (.ok second)
  | failure (reason : ε) : Agree related (.error reason) (.error reason)

theorem exists_of_bind_eq_ok {ε α β : Type} {first : Except ε α} {next : α → Except ε β}
    {result : β} (succeeds : first >>= next = .ok result) :
    ∃ value, first = .ok value ∧ next value = .ok result := by
  cases first with
  | error reason => exact Except.noConfusion rfl rfl (heq_of_eq succeeds)
  | ok value => exact ⟨value, rfl, succeeds⟩

theorem bind_eq_ok_iff {ε α β : Type} {first : Except ε α} {next : α → Except ε β} {result : β} :
    first >>= next = .ok result ↔ ∃ value, first = .ok value ∧ next value = .ok result := by
  constructor
  · exact exists_of_bind_eq_ok
  · rintro ⟨value, rfl, succeeds⟩
    exact succeeds

@[simp] theorem pure_eq_ok_iff {ε α : Type} {value result : α} :
    (pure value : Except ε α) = .ok result ↔ value = result :=
  Except.ok.injEq value result ▸ Iff.rfl

@[simp] theorem throw_ne_ok {ε α : Type} {reason : ε} {result : α} :
    (throw reason : Except ε α) ≠ .ok result :=
  nofun

theorem bind_eq_error_iff {ε α β : Type} {first : Except ε α} {next : α → Except ε β} {reason : ε} :
    first >>= next = .error reason ↔
      first = .error reason ∨ ∃ value, first = .ok value ∧ next value = .error reason := by
  cases first with
  | error other => simp [bind, Except.bind]
  | ok value => simp [bind, Except.bind]

theorem exists_of_map_eq_ok {ε α β : Type} {first : Except ε α} {image : α → β} {result : β}
    (succeeds : image <$> first = .ok result) :
    ∃ value, first = .ok value ∧ image value = result := by
  cases first with
  | error reason => exact Except.noConfusion rfl rfl (heq_of_eq succeeds)
  | ok value => exact ⟨value, rfl, Except.ok.inj succeeds⟩

theorem map_eq_ok_iff {ε α β : Type} {first : Except ε α} {image : α → β} {result : β} :
    image <$> first = .ok result ↔ ∃ value, first = .ok value ∧ image value = result := by
  constructor
  · exact exists_of_map_eq_ok
  · rintro ⟨value, rfl, rfl⟩
    rfl

@[simp] theorem mapError_eq_ok_iff {ε δ α : Type} {outcome : Except ε α} {change : ε → δ}
    {result : α} : outcome.mapError change = .ok result ↔ outcome = .ok result := by
  cases outcome <;> simp [Except.mapError]

theorem mapError_eq_error_iff {ε δ α : Type} {outcome : Except ε α} {change : ε → δ} {reason : δ} :
    outcome.mapError change = .error reason ↔
      ∃ cause, outcome = .error cause ∧ change cause = reason := by
  cases outcome <;> simp [Except.mapError]

/-- What holds of every single result holds of all of them. -/
theorem forall_mem_of_mapM_eq_ok {ε α β : Type} {image : α → Except ε β} {property : β → Prop}
    (each : ∀ {item result}, image item = .ok result → property result) {items : List α}
    {results : List β} (succeeds : items.mapM image = .ok results) :
    ∀ result ∈ results, property result := by
  induction items generalizing results with
  | nil =>
      cases succeeds
      simp
  | cons item rest induction =>
      rw [List.mapM_cons] at succeeds
      obtain ⟨first, ofItem, succeeds⟩ := exists_of_bind_eq_ok succeeds
      obtain ⟨others, ofRest, ⟨⟩⟩ := exists_of_bind_eq_ok succeeds
      exact List.forall_mem_cons.mpr ⟨each ofItem, induction ofRest⟩

/-! ## Lists of computations -/

section

variable {ε α β : Type} {image : α → Except ε β} {items : List α}

theorem mapM_eq_ok_iff {results : List β} :
    items.mapM image = .ok results ↔
      List.Forall₂ (fun item result => image item = .ok result) items results := by
  induction items generalizing results with
  | nil => rw [List.mapM_nil, pure_eq_ok_iff, List.forall₂_nil_left_iff, eq_comm]
  | cons item rest induction =>
      rw [List.mapM_cons, bind_eq_ok_iff]
      constructor
      · rintro ⟨first, ofItem, succeeds⟩
        obtain ⟨others, ofRest, ⟨⟩⟩ := exists_of_bind_eq_ok succeeds
        exact .cons ofItem (induction.mp ofRest)
      · rintro (_ | ⟨ofItem, ofRest⟩)
        exact ⟨_, ofItem, by rw [induction.mpr ofRest]; rfl⟩

theorem exists_mapM_eq_ok_iff :
    (∃ results, items.mapM image = .ok results) ↔
      ∀ item ∈ items, ∃ result, image item = .ok result := by
  induction items with
  | nil => simp
  | cons item rest induction =>
      rw [List.forall_mem_cons, ← induction]
      simp only [mapM_eq_ok_iff]
      constructor
      · rintro ⟨_, _ | ⟨ofItem, ofRest⟩⟩
        exact ⟨⟨_, ofItem⟩, _, ofRest⟩
      · rintro ⟨⟨_, ofItem⟩, _, ofRest⟩
        exact ⟨_, .cons ofItem ofRest⟩

/-- The failure of a list is that of the first element that fails. -/
theorem mapM_eq_error_iff {reason : ε} :
    items.mapM image = .error reason ↔
      ∃ before item after, items = before ++ item :: after ∧
        (∀ other ∈ before, ∃ result, image other = .ok result) ∧ image item = .error reason := by
  induction items with
  | nil => exact ⟨nofun, fun ⟨before, _, _, split, _⟩ => by simp at split⟩
  | cons item rest induction =>
      rw [List.mapM_cons]
      cases ofItem : image item with
      | error other =>
          constructor
          · rintro ⟨⟩
            exact ⟨[], item, rest, rfl, by simp, ofItem⟩
          · rintro ⟨_ | ⟨first, before⟩, found, after, split, succeed, fails⟩
            · obtain ⟨rfl, -⟩ := List.cons.inj split
              obtain rfl := Except.error.inj (ofItem.symm.trans fails)
              rfl
            · obtain ⟨rfl, -⟩ := List.cons.inj split
              obtain ⟨result, succeeds⟩ := succeed _ List.mem_cons_self
              cases ofItem.symm.trans succeeds
      | ok first =>
          have passes : ((Except.ok first : Except ε β) >>= fun first =>
              rest.mapM image >>= fun others => pure (first :: others)) = .error reason ↔
              rest.mapM image = .error reason := by
            cases rest.mapM image <;> simp [bind, Except.bind, pure, Except.pure]
          rw [passes, induction]
          constructor
          · rintro ⟨before, found, after, rfl, succeed, fails⟩
            exact ⟨item :: before, found, after, rfl,
              List.forall_mem_cons.mpr ⟨⟨first, ofItem⟩, succeed⟩, fails⟩
          · rintro ⟨_ | ⟨other, before⟩, found, after, split, succeed, fails⟩
            · obtain ⟨rfl, -⟩ := List.cons.inj split
              cases ofItem.symm.trans fails
            · obtain ⟨rfl, rfl⟩ := List.cons.inj split
              exact ⟨before, found, after, rfl, (List.forall_mem_cons.mp succeed).2, fails⟩

theorem exists_optionMapM_eq_ok_iff {item : Option α} :
    (∃ result, item.mapM image = .ok result) ↔
      ∀ given ∈ item, ∃ result, image given = .ok result := by
  cases item with
  | none => simp
  | some given => cases ofGiven : image given <;> simp [ofGiven]

theorem optionMapM_eq_error_iff {item : Option α} {reason : ε} :
    item.mapM image = .error reason ↔ ∃ given ∈ item, image given = .error reason := by
  cases item with
  | none => exact ⟨nofun, nofun⟩
  | some given => cases ofGiven : image given <;> simp [ofGiven]

end

namespace Agree

variable {ε δ α β γ κ : Type} {related : α → β → Prop} {further : γ → κ → Prop}
  {first : Except ε α} {second : Except ε β}

/-- An outcome agrees with itself if its result is related to itself. -/
theorem refl {related : α → α → Prop} {outcome : Except ε α}
    (results : ∀ result, outcome = .ok result → related result result) :
    Agree related outcome outcome := by
  cases outcome with
  | error reason => exact .failure reason
  | ok result => exact .success (results result rfl)

theorem bind {next : α → Except ε γ} {other : β → Except ε κ}
    (agree : Agree related first second)
    (rest : ∀ {a b}, related a b → Agree further (next a) (other b)) :
    Agree further (first >>= next) (second >>= other) := by
  cases agree with
  | failure reason => exact .failure reason
  | success results => exact rest results

theorem map {image : α → γ} {other : β → κ} (agree : Agree related first second)
    (images : ∀ {a b}, related a b → further (image a) (other b)) :
    Agree further (image <$> first) (other <$> second) := by
  cases agree with
  | failure reason => exact .failure reason
  | success results => exact .success (images results)

theorem mapError (change : ε → δ) (agree : Agree related first second) :
    Agree related (first.mapError change) (second.mapError change) := by
  cases agree with
  | failure reason => exact .failure _
  | success results => exact .success results

/-- Lists whose elements agree one by one. -/
theorem mapM {items : List γ} {others : List κ} {image : γ → Except ε α} {other : κ → Except ε β}
    (related_items : List.Forall₂ (fun item another => Agree related (image item) (other another))
      items others) :
    Agree (List.Forall₂ related) (items.mapM image) (others.mapM other) := by
  induction related_items with
  | nil => exact .success .nil
  | cons head _ induction =>
      rw [List.mapM_cons, List.mapM_cons]
      exact head.bind fun results => induction.bind fun others =>
        .success (.cons results others)

/-- What is optional in both computations, or in neither. -/
theorem optionMapM {item : Option γ} {other : Option κ} {image : γ → Except ε α}
    {otherImage : κ → Except ε β}
    (related_items : Option.Rel (fun item another =>
      Agree related (image item) (otherImage another))
      item other) :
    Agree (Option.Rel related) (item.mapM image) (other.mapM otherImage) := by
  cases related_items with
  | none => exact .success .none
  | some results => exact results.map .some

/-- Both succeed, or neither does. -/
theorem isOk_iff (agree : Agree related first second) :
    (∃ result, first = .ok result) ↔ ∃ result, second = .ok result := by
  cases agree with
  | failure reason => simp
  | success results => simp

theorem exists_of_ok {result : α} (agree : Agree related first second)
    (ok : first = .ok result) : ∃ other, second = .ok other ∧ related result other := by
  cases agree with
  | failure reason => cases ok
  | @success _ other results =>
      cases ok
      exact ⟨other, rfl, results⟩

end Agree

/-! ## Computations with messages -/

namespace Logged

variable {ε α β : Type}

theorem outcome_bind (logged : Logged ε α) (next : α → Logged ε β) :
    (logged >>= next).outcome = logged.outcome >>= fun value => (next value).outcome := by
  obtain ⟨log, outcome⟩ := logged
  cases outcome <;> rfl

@[simp] theorem outcome_ofExcept (outcome : Except ε α) : (ofExcept outcome).outcome = outcome :=
  rfl

@[simp] theorem outcome_mapError {δ : Type} (change : ε → δ) (logged : Logged ε α) :
    (logged.mapError change).outcome = logged.outcome.mapError change :=
  rfl

@[simp] theorem outcome_pure (value : α) : (pure value : Logged ε α).outcome = .ok value :=
  rfl

end Logged

end ApiClient
