import ApiClient.Proofs.Api.Parameters
import Mathlib.Data.List.Induction
import Mathlib.Data.List.Nodup

/-! What an operation inherits from its path. The parameters of the operation come first, as
they are. After them come those of the path, except where a key is taken: by the operation, or
by an earlier parameter of the path. References have been followed before, so that keys are
compared and not pointers. -/

namespace ApiClient

/-- The parameters of a path whose key is neither that of a parameter of the operation nor that
of an earlier parameter of the path. -/
def unreplaced (own inherited : List Parameter) : List Parameter :=
  (inherited.zipIdx.filter fun (parameter, place) =>
    decide (parameter.key ∉ own.map (·.key) ∧
      parameter.key ∉ (inherited.take place).map (·.key))).map (·.1)

section

variable {own inherited : List Parameter}

/-- One more parameter of the path stays exactly if its key is new. -/
theorem unreplaced_concat (own inherited : List Parameter) (parameter : Parameter) :
    unreplaced own (inherited ++ [parameter]) =
      unreplaced own inherited ++
        if parameter.key ∈ (own ++ inherited).map (·.key) then [] else [parameter] := by
  have before : ∀ entry ∈ inherited.zipIdx,
      decide (entry.1.key ∉ own.map (·.key) ∧
          entry.1.key ∉ ((inherited ++ [parameter]).take entry.2).map (·.key)) =
        decide (entry.1.key ∉ own.map (·.key) ∧
          entry.1.key ∉ (inherited.take entry.2).map (·.key)) := by
    intro entry member
    have within : entry.2 < inherited.length := by
      simpa using List.snd_lt_of_mem_zipIdx member
    rw [List.take_append_of_le_length (Nat.le_of_lt within)]
  unfold unreplaced
  rw [List.zipIdx_append, List.filter_append, List.map_append, List.filter_congr before,
    List.zipIdx_singleton]
  congr 1
  by_cases taken : parameter.key ∈ (own ++ inherited).map (·.key)
  · rw [if_pos taken, List.filter_cons_of_neg]
    · rfl
    · rw [List.map_append, List.mem_append] at taken
      simpa [or_iff_not_imp_left] using taken
  · rw [if_neg taken, List.filter_cons_of_pos]
    · rfl
    · rw [List.map_append, List.mem_append, not_or] at taken
      simpa using taken

theorem mergeParameters_concat (own inherited : List Parameter) (parameter : Parameter) :
    mergeParameters own (inherited ++ [parameter]) =
      if parameter.key ∈ (mergeParameters own inherited).map (·.key) then
        mergeParameters own inherited
      else mergeParameters own inherited ++ [parameter] := by
  unfold mergeParameters
  rw [List.foldl_append, List.foldl_cons, List.foldl_nil]
  simp only [List.any_eq_true, beq_iff_eq, List.mem_map]

/-- The keys that have been met are those of both lists. -/
theorem mem_keys_mergeParameters {key : Text × Text} :
    key ∈ (mergeParameters own inherited).map (·.key) ↔ key ∈ (own ++ inherited).map (·.key) := by
  induction inherited using List.reverseRecOn with
  | nil => rw [List.append_nil]; rfl
  | append_singleton inherited parameter induction =>
      have whole : (own ++ (inherited ++ [parameter])).map (·.key) =
          (own ++ inherited).map (·.key) ++ [parameter.key] := by
        rw [← List.append_assoc, List.map_append, List.map_singleton]
      rw [mergeParameters_concat, whole, List.mem_append, ← induction, List.mem_singleton]
      split
      · rename_i taken
        exact ⟨.inl, fun given => given.elim id fun same => same ▸ taken⟩
      · rw [List.map_append, List.mem_append, List.map_singleton, List.mem_singleton]

private theorem mergeParameters_eq (own inherited : List Parameter) :
    mergeParameters own inherited = own ++ unreplaced own inherited := by
  induction inherited using List.reverseRecOn with
  | nil => exact (List.append_nil own).symm
  | append_singleton inherited parameter induction =>
      rw [mergeParameters_concat, unreplaced_concat, ← List.append_assoc, ← induction]
      by_cases taken : parameter.key ∈ (own ++ inherited).map (·.key)
      · rw [if_pos (mem_keys_mergeParameters.mpr taken), if_pos taken, List.append_nil]
      · rw [if_neg (mt mem_keys_mergeParameters.mp taken), if_neg taken]

private theorem nodup_keys_mergeParameters (distinct : (own.map (·.key)).Nodup)
    (inherited : List Parameter) :
    ((mergeParameters own inherited).map (·.key)).Nodup := by
  induction inherited using List.reverseRecOn with
  | nil => exact distinct
  | append_singleton inherited parameter induction =>
      rw [mergeParameters_concat]
      split
      · exact induction
      · rename_i isNew
        rw [List.map_append, List.map_singleton]
        exact induction.append (List.nodup_singleton _) (by simpa using isNew)

end

/-- Where all references lead somewhere, an operation has its own parameters, and after them
those of its path whose keys are not taken. No key is lost, and keys of the operation that were
distinct are still so among all. -/
theorem parameters_inherited {document : Document}
    {operationNodes pathNodes : List (OrReference Parameter)}
    (resolved : ∀ node ∈ operationNodes ++ pathNodes, ∃ parameter,
      document.parameterShelf.Ends node (.ok parameter)) :
    ∃ own inherited,
      List.Forall₂ (fun node parameter => document.parameterShelf.Ends node (.ok parameter))
        operationNodes own ∧
      List.Forall₂ (fun node parameter => document.parameterShelf.Ends node (.ok parameter))
        pathNodes inherited ∧
      resolveAll document.parameterShelf operationNodes = .ok own ∧
      resolveAll document.parameterShelf pathNodes = .ok inherited ∧
      mergeParameters own inherited = own ++ unreplaced own inherited ∧
      (∀ parameter ∈ own ++ inherited,
        parameter.key ∈ (mergeParameters own inherited).map (·.key)) ∧
      ((own.map (·.key)).Nodup → ((mergeParameters own inherited).map (·.key)).Nodup) := by
  obtain ⟨first, second⟩ := List.forall_mem_append.mp resolved
  obtain ⟨own, ofOwn⟩ := exists_resolveAll_iff.mpr first
  obtain ⟨inherited, ofInherited⟩ := exists_resolveAll_iff.mpr second
  refine ⟨own, inherited, resolveAll_eq_ok_iff.mp ofOwn, resolveAll_eq_ok_iff.mp ofInherited, ofOwn,
    ofInherited, mergeParameters_eq own inherited, ?_, ?_⟩
  · intro parameter member
    exact mem_keys_mergeParameters.mpr (List.mem_map_of_mem member)
  · intro distinct
    exact nodup_keys_mergeParameters distinct inherited

/-- A parameter among the components, under a name that is not its own, and a reference to it. -/
def sharedLimit : Document where
  components := some {
    parameters := some [("Shared", .reference "#/components/parameters/Limit"),
      ("Limit", .direct { name := "limit", location := "query", required := some true })] }

def ownLimit : List (OrReference Parameter) :=
  [.reference "#/components/parameters/Shared"]

/-- The parameters of a path: one in place that the components have too, and two with one key. -/
def limitedPath : List (OrReference Parameter) :=
  [.direct { name := "limit", location := "query" },
    .direct { name := "limit", location := "header" },
    .direct { name := "limit", location := "header", required := some true }]

theorem parameters_inherited_sharedLimit :
    (∀ node ∈ ownLimit ++ limitedPath, ∃ parameter,
        sharedLimit.parameterShelf.Ends node (.ok parameter)) ∧
      ∃ own inherited,
        resolveAll sharedLimit.parameterShelf ownLimit = .ok own ∧
        resolveAll sharedLimit.parameterShelf limitedPath = .ok inherited ∧
        (own ++ unreplaced own inherited).map (fun parameter =>
          (parameter.key, parameter.required)) =
          ([(("limit", "query"), some true), (("limit", "header"), none)] :
            List ((Text × Text) × Option Bool)) := by
  have evaluated : (do
      let own ← resolveAll sharedLimit.parameterShelf ownLimit
      let inherited ← resolveAll sharedLimit.parameterShelf limitedPath
      return (mergeParameters own inherited).map fun parameter : Parameter =>
        (parameter.key, parameter.required)) =
        .ok ([(("limit", "query"), some true), (("limit", "header"), none)] :
          List ((Text × Text) × Option Bool)) := by cbv
  obtain ⟨own, ofOwn, evaluated⟩ := bind_eq_ok_iff.mp evaluated
  obtain ⟨inherited, ofInherited, evaluated⟩ := bind_eq_ok_iff.mp evaluated
  have resolved : ∀ node ∈ ownLimit ++ limitedPath, ∃ parameter,
      sharedLimit.parameterShelf.Ends node (.ok parameter) :=
    List.forall_mem_append.mpr
      ⟨exists_resolveAll_iff.mp ⟨own, ofOwn⟩, exists_resolveAll_iff.mp ⟨inherited, ofInherited⟩⟩
  obtain ⟨first, second, -, -, ofFirst, ofSecond, merged, -⟩ := parameters_inherited resolved
  obtain rfl : own = first := Except.ok.inj (ofOwn.symm.trans ofFirst)
  obtain rfl : inherited = second := Except.ok.inj (ofInherited.symm.trans ofSecond)
  exact ⟨resolved, own, inherited, ofOwn, ofInherited, merged ▸ pure_eq_ok_iff.mp evaluated⟩

end ApiClient
