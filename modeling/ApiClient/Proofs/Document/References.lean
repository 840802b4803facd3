import ApiClient.Proofs.Document.Names
import ApiClient.Proofs.Document.Redaction

/-! References to components. They are followed by their pointers alone, so a change of the parts
themselves can be made before or after, and a reference leads to a part that the document holds in
place. -/

namespace ApiClient

def Shelf.map {α β : Type} (change : α → β) (shelf : Shelf α) : Shelf β :=
  ⟨shelf.root, mapValues (·.map change) shelf.parts⟩

section

variable {α β : Type} (change : α → β)

private theorem findNamed_mapValues (name : Text) (entries : List (Text × α)) :
    findNamed name (mapValues change entries) = (findNamed name entries).map change := by
  induction entries with
  | nil => rfl
  | cons entry rest induction =>
      change (if entry.1 = name then _ else findNamed name (mapValues change rest)) = _
      rw [findNamed, induction]
      split <;> rfl

private theorem Shelf.lookup_map (shelf : Shelf α) (pointer : Text) :
    (shelf.map change).lookup pointer = (shelf.lookup pointer).map (·.map change) := by
  rw [Shelf.lookup, Shelf.lookup, Shelf.map, findNamed_mapValues]
  dsimp only
  split
  · cases findNamed (componentName pointer) shelf.parts <;> rfl
  · rfl

private theorem Shelf.follow_map (shelf : Shelf α) (fuel : Nat) (seen : List Text)
    (node : OrReference α) :
    (shelf.map change).follow fuel seen (node.map change) =
      (shelf.follow fuel seen node).map change := by
  induction fuel generalizing seen node with
  | zero => cases node <;> rfl
  | succ fuel induction =>
      cases node with
      | direct part => rfl
      | reference pointer =>
          rw [OrReference.map, Shelf.follow, Shelf.follow, Shelf.lookup_map]
          split
          · rfl
          · cases shelf.lookup pointer with
            | error fault => rfl
            | ok next => exact induction (pointer :: seen) next

theorem Shelf.resolve_map (shelf : Shelf α) (node : OrReference α) :
    (shelf.map change).resolve (node.map change) = (shelf.resolve node).map change := by
  have length : (shelf.map change).parts.length = shelf.parts.length := List.length_map _
  rw [Shelf.resolve, length]
  exact Shelf.follow_map change shelf _ [] node

end

/-! ## What is found -/

section

variable {α : Type} {property : α → Prop}

theorem exists_mem_of_findNamed {name : Text} {entries : List (Text × α)} {part : α}
    (found : findNamed name entries = some part) : ∃ entry ∈ entries, entry.2 = part := by
  induction entries with
  | nil => cases found
  | cons entry rest induction =>
      rw [findNamed] at found
      split at found
      · exact ⟨entry, List.mem_cons_self, Option.some.inj found⟩
      · obtain ⟨other, member, same⟩ := induction found
        exact ⟨other, List.mem_cons_of_mem entry member, same⟩

private theorem Shelf.satisfies_lookup {shelf : Shelf α}
    (parts : ∀ part ∈ shelf.parts, part.2.Satisfies property) {pointer : Text}
    {next : OrReference α} (found : shelf.lookup pointer = .ok next) : next.Satisfies property := by
  rw [Shelf.lookup] at found
  split at found
  · split at found
    · rename_i named
      cases found
      obtain ⟨entry, member, rfl⟩ := exists_mem_of_findNamed named
      exact parts entry member
    · cases found
  · cases found

theorem Shelf.satisfies_follow {shelf : Shelf α}
    (parts : ∀ part ∈ shelf.parts, part.2.Satisfies property) {fuel : Nat} {seen : List Text}
    {node : OrReference α} (satisfies : node.Satisfies property) {result : α}
    (followed : shelf.follow fuel seen node = .ok result) : property result := by
  induction fuel generalizing seen node with
  | zero =>
      cases node with
      | direct part =>
          cases followed
          exact satisfies
      | reference pointer => cases followed
  | succ fuel induction =>
      cases node with
      | direct part =>
          cases followed
          exact satisfies
      | reference pointer =>
          rw [Shelf.follow] at followed
          split at followed
          · cases followed
          · split at followed
            · cases followed
            · rename_i next found
              exact induction (Shelf.satisfies_lookup parts found) followed

end

end ApiClient
