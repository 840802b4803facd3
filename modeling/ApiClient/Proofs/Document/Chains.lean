import ApiClient.Proofs.Document.References
import Mathlib.Data.List.Nodup
import Mathlib.Data.List.Perm.Subperm

/-! Chains of references. A lookup leads from a reference to the next node, so that every node
is the start of one chain. The chain ends at a part that is given in place, or at a pointer
whose lookup fails, or it goes on forever. A walk along the chain comes to its end if there is
one, and stops at the first pointer that it meets again if there is none. -/

namespace ApiClient

section

variable {α : Type}

/-- Where a node leads along some pointers, each of which is looked up. -/
inductive Shelf.Leads (shelf : Shelf α) : OrReference α → List Text → OrReference α → Prop where
  | here (node : OrReference α) : shelf.Leads node [] node
  | step {pointer : Text} {pointers : List Text} {next last : OrReference α}
      (found : shelf.lookup pointer = .ok next) (rest : shelf.Leads next pointers last) :
      shelf.Leads (.reference pointer) (pointer :: pointers) last

/-- The chain of a node has no end: any number of lookups succeed one after the other. -/
def Shelf.IsEndless (shelf : Shelf α) (node : OrReference α) : Prop :=
  ∀ count, ∃ pointers last, pointers.length = count ∧ shelf.Leads node pointers last

/-- A pointer comes up for the second time, and none does so before it. -/
def Shelf.MeetsAgain (shelf : Shelf α) (node : OrReference α) (pointer : Text) : Prop :=
  ∃ pointers, shelf.Leads node pointers (.reference pointer) ∧ pointers.Nodup ∧ pointer ∈ pointers

/-! ## Parts of chains -/

namespace Shelf.Leads

variable {shelf : Shelf α} {node between last other : OrReference α} {pointer : Text}
  {first pointers others : List Text}

private theorem append (leads : shelf.Leads node first between)
    (rest : shelf.Leads between others last) :
    shelf.Leads node (first ++ others) last := by
  induction leads with
  | here _ => exact rest
  | step found _ induction => exact .step found (induction rest)

private theorem concat (leads : shelf.Leads node pointers (.reference pointer))
    (found : shelf.lookup pointer = .ok last) : shelf.Leads node (pointers ++ [pointer]) last :=
  leads.append (.step found (.here last))

private theorem split (leads : shelf.Leads node (first ++ others) last) :
    ∃ between, shelf.Leads node first between ∧ shelf.Leads between others last := by
  induction first generalizing node with
  | nil => exact ⟨node, .here node, leads⟩
  | cons pointer first induction =>
      cases leads with
      | step found rest =>
          obtain ⟨between, leads, rest⟩ := induction rest
          exact ⟨between, .step found leads, rest⟩

/-- Lookups have one result, so of two chains from one node the longer one goes on where the shorter
one ends. -/
theorem goesOn (leads : shelf.Leads node pointers last) (further : shelf.Leads node others other)
    (shorter : pointers.length ≤ others.length) :
    ∃ rest, others = pointers ++ rest ∧ shelf.Leads last rest other := by
  induction leads generalizing others with
  | here _ => exact ⟨others, rfl, further⟩
  | step found _ induction =>
      cases further with
      | here _ => simp at shorter
      | step alsoFound further =>
          obtain rfl := Except.ok.inj (found.symm.trans alsoFound)
          obtain ⟨rest, rfl, onward⟩ := induction further (Nat.le_of_succ_le_succ shorter)
          exact ⟨rest, rfl, onward⟩

end Shelf.Leads

/-! ## Chains with and without an end -/

/-- No lookup leads on from a node. -/
def Shelf.IsEnd (shelf : Shelf α) (node : OrReference α) : Prop :=
  ∀ pointers last, shelf.Leads node pointers last → pointers = []

section

variable {shelf : Shelf α} {node last other : OrReference α} {pointer : Text}
  {pointers others : List Text}

private theorem Shelf.isEnd_direct (shelf : Shelf α) (part : α) : shelf.IsEnd (.direct part) := by
  intro pointers last leads
  cases leads
  rfl

private theorem Shelf.isEnd_of_fails {fault : ReferenceFault}
    (fails : shelf.lookup pointer = .error fault) :
    shelf.IsEnd (.reference pointer) := by
  intro pointers last leads
  cases leads with
  | here _ => rfl
  | step found _ => exact Except.noConfusion rfl rfl (heq_of_eq (fails.symm.trans found))

private theorem Shelf.IsEnd.eq (ends : shelf.IsEnd last) (leads : shelf.Leads node pointers last)
    (alsoEnds : shelf.IsEnd other) (alsoLeads : shelf.Leads node others other) : last = other := by
  rcases Nat.le_total pointers.length others.length with shorter | longer
  · obtain ⟨rest, -, onward⟩ := leads.goesOn alsoLeads shorter
    cases ends rest other onward
    cases onward
    rfl
  · obtain ⟨rest, -, onward⟩ := alsoLeads.goesOn leads longer
    cases alsoEnds rest last onward
    cases onward
    rfl

private theorem Shelf.IsEnd.not_isEndless (ends : shelf.IsEnd last)
    (leads : shelf.Leads node pointers last) : ¬shelf.IsEndless node := by
  intro endless
  obtain ⟨others, other, length, further⟩ := endless (pointers.length + 1)
  obtain ⟨rest, rfl, onward⟩ := leads.goesOn further (by omega)
  rw [ends rest other onward] at length
  simp at length

/-- A pointer that comes up again closes a circle, and the chain goes round in it. -/
theorem Shelf.isEndless_of_mem (leads : shelf.Leads node pointers (.reference pointer))
    (met : pointer ∈ pointers) : shelf.IsEndless node := by
  obtain ⟨before, circle, rfl⟩ := List.append_of_mem met
  obtain ⟨between, there, round⟩ := leads.split
  have enters : shelf.Leads node before (.reference pointer) ∧
      shelf.Leads (.reference pointer) (pointer :: circle) (.reference pointer) := by
    cases round with
    | step found rest => exact ⟨there, .step found rest⟩
  obtain ⟨there, round⟩ := enters
  have turns (count : Nat) : ∃ pointers, count ≤ pointers.length ∧
      shelf.Leads node pointers (.reference pointer) := by
    induction count with
    | zero => exact ⟨before, Nat.zero_le _, there⟩
    | succ count induction =>
        obtain ⟨pointers, long, leads⟩ := induction
        refine ⟨pointers ++ pointer :: circle, ?_, leads.append round⟩
        rw [List.length_append, List.length_cons]
        omega
  intro count
  obtain ⟨pointers, long, leads⟩ := turns count
  rw [← List.take_append_drop count pointers] at leads
  obtain ⟨between, leads, -⟩ := leads.split
  exact ⟨pointers.take count, between, List.length_take_of_le long, leads⟩

private theorem Shelf.MeetsAgain.isEndless (again : shelf.MeetsAgain node pointer) :
    shelf.IsEndless node := by
  obtain ⟨pointers, leads, -, met⟩ := again
  exact isEndless_of_mem leads met

private theorem Shelf.MeetsAgain.eq {another : Text} (again : shelf.MeetsAgain node pointer)
    (others : shelf.MeetsAgain node another) : pointer = another := by
  -- The pointers of the longer chain are distinct, so that it cannot go on after the shorter one.
  have nothing_further {pointers others : List Text} {pointer another : Text}
      (leads : shelf.Leads node pointers (.reference pointer)) (met : pointer ∈ pointers)
      (further : shelf.Leads node others (.reference another)) (distinct : others.Nodup)
      (shorter : pointers.length ≤ others.length) : pointer = another := by
    obtain ⟨rest, rfl, onward⟩ := leads.goesOn further shorter
    cases onward with
    | here _ => rfl
    | step _ _ => exact absurd rfl ((List.nodup_append.mp distinct).2.2 _ met _ List.mem_cons_self)
  obtain ⟨pointers, leads, distinct, met⟩ := again
  obtain ⟨others, further, alsoDistinct, alsoMet⟩ := others
  rcases Nat.le_total pointers.length others.length with shorter | longer
  · exact nothing_further leads met further alsoDistinct shorter
  · exact (nothing_further further alsoMet leads distinct longer).symm

end

/-! ## Pointers of a shelf

Every pointer of a chain but the first one stands in the shelf, so that a chain of distinct pointers
is not much longer than the shelf. -/

def OrReference.pointer? : OrReference α → Option Text
  | .reference pointer => some pointer
  | .direct _ => none

def Shelf.pointers (shelf : Shelf α) : List Text :=
  shelf.parts.filterMap (·.2.pointer?)

section

variable {shelf : Shelf α} {node last : OrReference α} {pointer : Text} {pointers : List Text}

private theorem Shelf.pointer_mem_of_lookup {further : Text}
    (found : shelf.lookup pointer = .ok (.reference further)) : further ∈ shelf.pointers := by
  rw [Shelf.lookup] at found
  split at found
  · split at found
    · rename_i named
      obtain ⟨part, member, same⟩ := exists_mem_of_findNamed named
      refine List.mem_filterMap.mpr ⟨part, member, ?_⟩
      rw [same, Except.ok.inj found, OrReference.pointer?]
    · cases found
  · cases found

private theorem Shelf.Leads.subset_pointers (leads : shelf.Leads node pointers last)
    (inShelf : ∀ pointer, node = .reference pointer → pointer ∈ shelf.pointers) :
    pointers ⊆ shelf.pointers := by
  induction leads with
  | here _ => exact List.nil_subset _
  | step found _ induction =>
      refine List.cons_subset.mpr ⟨inShelf _ rfl, induction ?_⟩
      rintro pointer rfl
      exact Shelf.pointer_mem_of_lookup found

private theorem Shelf.Leads.length_le (leads : shelf.Leads node pointers last)
    (distinct : pointers.Nodup) :
    pointers.length ≤ shelf.parts.length + 1 := by
  cases leads with
  | here _ => exact Nat.zero_le _
  | @step _ pointers next _ found rest =>
      have inShelf : pointers ⊆ shelf.pointers := by
        apply rest.subset_pointers
        rintro pointer rfl
        exact Shelf.pointer_mem_of_lookup found
      have fits := (List.nodup_cons.mp distinct).2.subperm inShelf |>.length_le
      have pointersOfParts : shelf.pointers.length ≤ shelf.parts.length :=
        List.length_filterMap_le _ _
      rw [List.length_cons]
      omega

end

/-! ## Ends of walks -/

/-- What a walk along the chain of a node comes to. -/
inductive Shelf.Ends (shelf : Shelf α) (node : OrReference α) :
    Except BrokenReference α → Prop where
  | part {part : α} {pointers : List Text} (leads : shelf.Leads node pointers (.direct part)) :
      shelf.Ends node (.ok part)
  | failure {pointer : Text} {fault : ReferenceFault} {pointers : List Text}
      (leads : shelf.Leads node pointers (.reference pointer))
      (fails : shelf.lookup pointer = .error fault) : shelf.Ends node (.error ⟨pointer, fault⟩)
  | circle {pointer : Text} (again : shelf.MeetsAgain node pointer) :
      shelf.Ends node (.error ⟨pointer, .circular⟩)

section

variable {shelf : Shelf α} {node : OrReference α}

private theorem Shelf.Ends.eq {outcome other : Except BrokenReference α}
    (ends : shelf.Ends node outcome) (alsoEnds : shelf.Ends node other) : outcome = other := by
  cases ends with
  | part leads =>
      cases alsoEnds with
      | part others =>
          cases (isEnd_direct shelf _).eq leads (isEnd_direct shelf _) others
          rfl
      | failure others fails =>
          cases (isEnd_direct shelf _).eq leads (isEnd_of_fails fails) others
      | circle again => exact absurd again.isEndless ((isEnd_direct shelf _).not_isEndless leads)
  | failure leads fails =>
      cases alsoEnds with
      | part others => cases (isEnd_of_fails fails).eq leads (isEnd_direct shelf _) others
      | failure others alsoFails =>
          cases (isEnd_of_fails fails).eq leads (isEnd_of_fails alsoFails) others
          cases fails.symm.trans alsoFails
          rfl
      | circle again => exact absurd again.isEndless ((isEnd_of_fails fails).not_isEndless leads)
  | circle again =>
      cases alsoEnds with
      | part others => exact absurd again.isEndless ((isEnd_direct shelf _).not_isEndless others)
      | failure others fails =>
          exact absurd again.isEndless ((isEnd_of_fails fails).not_isEndless others)
      | circle alsoAgain => rw [again.eq alsoAgain]

/-- The walk has come along distinct pointers, and its fuel lasts for more of them
than the shelf can provide. -/
theorem Shelf.ends_follow {start : OrReference α} {fuel : Nat} {visited : List Text}
    (leads : shelf.Leads start visited node) (distinct : visited.Nodup)
    (enough : shelf.parts.length + 2 ≤ visited.length + fuel) :
    shelf.Ends start (shelf.follow fuel visited.reverse node) := by
  induction fuel generalizing visited node with
  | zero =>
      have short := leads.length_le distinct
      omega
  | succ fuel induction =>
      cases node with
      | direct part => exact .part leads
      | reference pointer =>
          rw [follow]
          split
          · rename_i met
            rw [List.contains_iff_mem, List.mem_reverse] at met
            exact .circle ⟨visited, leads, distinct, met⟩
          · rename_i fresh
            rw [List.contains_iff_mem, List.mem_reverse] at fresh
            split
            · rename_i fails
              exact .failure leads fails
            · rename_i next found
              have further : (visited ++ [pointer]).Nodup :=
                distinct.append (List.nodup_singleton pointer) (by simpa using fresh)
              have step := induction (leads.concat found) further (by simp; omega)
              rwa [List.reverse_append] at step

private theorem Shelf.ends_follow_start (shelf : Shelf α) (node : OrReference α) (more : Nat) :
    shelf.Ends node (shelf.follow (shelf.parts.length + 2 + more) [] node) :=
  ends_follow (.here node) List.nodup_nil (by simp)

/-- A node resolves to what a walk along its chain comes to. -/
theorem Shelf.resolve_eq_iff {outcome : Except BrokenReference α} :
    shelf.resolve node = outcome ↔ shelf.Ends node outcome := by
  have ends : shelf.Ends node (shelf.resolve node) := ends_follow_start shelf node 0
  exact ⟨fun same => same ▸ ends, ends.eq⟩

private theorem Shelf.lookup_ne_circular (shelf : Shelf α) (pointer : Text) :
    shelf.lookup pointer ≠ .error .circular := by
  intro fails
  rw [lookup] at fails
  split at fails
  · split at fails <;> cases fails
  · cases fails

end

/-- The outcome of a resolution is told by the chain of the node. It is a part if lookups
lead to it, the failure of the lookup to which they lead, or a circle if they lead on
forever, which is found at the first pointer that comes up again. More steps than the
walk is given change nothing. -/
theorem Shelf.resolve_chain (shelf : Shelf α) (node : OrReference α) :
    (∀ part, shelf.resolve node = .ok part ↔
      ∃ pointers, shelf.Leads node pointers (.direct part)) ∧
    (∀ pointer fault, shelf.resolve node = .error ⟨pointer, fault⟩ ∧ fault ≠ .circular ↔
      ∃ pointers, shelf.Leads node pointers (.reference pointer) ∧
        shelf.lookup pointer = .error fault) ∧
    ((∃ pointer, shelf.resolve node = .error ⟨pointer, .circular⟩) ↔ shelf.IsEndless node) ∧
    (∀ pointer, shelf.resolve node = .error ⟨pointer, .circular⟩ ↔
      shelf.MeetsAgain node pointer) ∧
    ∀ more, shelf.follow (shelf.parts.length + 2 + more) [] node = shelf.resolve node := by
  have circular (pointer : Text) : shelf.resolve node = .error ⟨pointer, .circular⟩ ↔
      shelf.MeetsAgain node pointer := by
    rw [resolve_eq_iff]
    constructor
    · intro ends
      cases ends with
      | failure _ fails => exact absurd fails (shelf.lookup_ne_circular pointer)
      | circle again => exact again
    · exact .circle
  refine ⟨fun part => ?_, fun pointer fault => ?_, ?_, circular, fun more => ?_⟩
  · rw [resolve_eq_iff]
    constructor
    · rintro ⟨leads⟩
      exact ⟨_, leads⟩
    · rintro ⟨pointers, leads⟩
      exact .part leads
  · rw [resolve_eq_iff]
    constructor
    · rintro ⟨ends, notCircular⟩
      cases ends with
      | failure leads fails => exact ⟨_, leads, fails⟩
      | circle _ => exact absurd rfl notCircular
    · rintro ⟨pointers, leads, fails⟩
      refine ⟨.failure leads fails, ?_⟩
      rintro rfl
      exact shelf.lookup_ne_circular pointer fails
  · constructor
    · rintro ⟨pointer, isCircular⟩
      exact ((circular pointer).mp isCircular).isEndless
    · intro endless
      have ends : shelf.Ends node (shelf.resolve node) := resolve_eq_iff.mp rfl
      cases outcome : shelf.resolve node with
      | ok part =>
          rw [outcome] at ends
          cases ends with
          | part leads => exact absurd endless ((isEnd_direct shelf part).not_isEndless leads)
      | error broken =>
          rw [outcome] at ends
          cases ends with
          | failure leads fails =>
              exact absurd endless ((isEnd_of_fails fails).not_isEndless leads)
          | circle _ => exact ⟨_, rfl⟩
  · exact (ends_follow_start shelf node more).eq (resolve_eq_iff.mp rfl)

end

end ApiClient
