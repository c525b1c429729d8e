import Marginalia.Table

/-!
# `Marginalia.Proofs.Table`: tables are in order

A table that is built by putting values in has its keys in ascending
order (`Sorted.insert`), none of them twice; so has one that is made of a
list (`sorted_ofList`). The keys are the ones that give a value
(`mem_keys_iff`). In a table in order each entry gives its own value
(`Sorted.get?_eq_some_iff`) and parts the others into smaller and greater
ones (`front_or_back_of_mem`).
-/

set_option autoImplicit false

namespace Marginalia.Table

variable {α : Type} {table : Table α} {key other : Text} {value : α}

/-- The keys of a table are in ascending order. -/
def Sorted (table : Table α) : Prop :=
  table.keys.Pairwise (· < ·)

theorem sorted_empty : Sorted (empty : Table α) :=
  List.Pairwise.nil

theorem mem_keys_insertSorted {entries : List (Text × α)}
    (h : other ∈ (insertSorted key value entries).map (·.1)) :
    other = key ∨ other ∈ entries.map (·.1) := by
  induction entries with
  | nil => exact .inl (List.mem_singleton.mp h)
  | cons entry rest ih =>
    obtain ⟨k, v⟩ := entry
    rw [insertSorted] at h
    rw [List.map_cons]
    split at h
    · exact List.mem_cons.mp h
    · split at h
      · rcases List.mem_cons.mp h with hkey | hrest
        · exact .inl hkey
        · exact .inr (List.mem_cons_of_mem k hrest)
      · rcases List.mem_cons.mp h with rfl | hrest
        · exact .inr List.mem_cons_self
        · exact (ih hrest).imp_right (List.mem_cons_of_mem k)

/-- A value that is put in leaves the keys in order. -/
theorem Sorted.insert (h : Sorted table) (key : Text) (value : α) :
    Sorted (table.insert key value) := by
  obtain ⟨entries⟩ := table
  change (entries.map (·.1)).Pairwise (· < ·) at h
  show ((insertSorted key value entries).map (·.1)).Pairwise (· < ·)
  induction entries with
  | nil => exact List.pairwise_singleton _ _
  | cons entry rest ih =>
    obtain ⟨k, v⟩ := entry
    obtain ⟨hfirst, hrest⟩ := List.pairwise_cons.mp h
    rw [insertSorted]
    split
    · rename_i hlt
      refine List.pairwise_cons.mpr ⟨fun other hother => ?_, h⟩
      rcases List.mem_cons.mp hother with rfl | hother
      · exact hlt
      · exact List.lt_trans hlt (hfirst other hother)
    · rename_i hnot
      split
      · rename_i heq
        subst heq
        exact h
      · rename_i hne
        have hlt : k < key := by
          refine Decidable.byContradiction fun hnot' => ?_
          exact hne (List.le_antisymm (List.not_lt.mp hnot') (List.not_lt.mp hnot))
        refine List.pairwise_cons.mpr ⟨fun other hother => ?_, ih hrest⟩
        rcases mem_keys_insertSorted hother with rfl | hother
        · exact hlt
        · exact hfirst other hother

/-- The table of a list is in order, whatever the order of the list is. -/
theorem sorted_ofList (entries : List (Text × α)) : Sorted (ofList entries) := by
  -- Each step of the fold puts in one value.
  have hfold : ∀ table : Table α, Sorted table →
      Sorted (entries.foldl (fun table entry => table.insert entry.1 entry.2) table) := by
    induction entries with
    | nil => exact fun _ h => h
    | cons entry entries ih => exact fun _ h => ih _ (h.insert entry.1 entry.2)
  exact hfold empty sorted_empty

/-- Where a list in order is cut at one entry, the entries in front have
smaller keys and those behind it greater ones. -/
theorem front_or_back_of_mem {front back : List (Text × α)} {entry found : Text × α}
    (h : (front ++ entry :: back).Pairwise fun a b => a.1 < b.1)
    (hmem : found ∈ front ++ entry :: back) (hne : found.1 ≠ entry.1) :
    found ∈ front ∧ found.1 < entry.1 ∨ found ∈ back ∧ entry.1 < found.1 := by
  obtain ⟨-, hback, hfront⟩ := List.pairwise_append.mp h
  rcases List.mem_append.mp hmem with hmem | hmem
  · exact .inl ⟨hmem, hfront found hmem entry List.mem_cons_self⟩
  · rcases List.mem_cons.mp hmem with rfl | hmem
    · exact absurd rfl hne
    · exact .inr ⟨hmem, (List.pairwise_cons.mp hback).1 found hmem⟩

/-- A key gives the value that it has in the list. -/
theorem Sorted.get?_eq_some_iff (h : Sorted table) :
    table.get? key = some value ↔ (key, value) ∈ table.entries := by
  obtain ⟨entries⟩ := table
  change (entries.map (·.1)).Pairwise (· < ·) at h
  show (entries.find? (·.1 = key)).map (·.2) = some value ↔ (key, value) ∈ entries
  induction entries with
  | nil => simp
  | cons entry rest ih =>
    obtain ⟨k, v⟩ := entry
    obtain ⟨hfirst, hrest⟩ := List.pairwise_cons.mp h
    by_cases hkey : k = key
    · subst hkey
      -- Behind the key there are only greater ones.
      have hnot : (k, value) ∉ rest := fun hmem =>
        List.lt_irrefl k (hfirst k (List.mem_map_of_mem hmem))
      simp [hnot, eq_comm]
    · rw [List.find?_cons_of_neg (by simpa using hkey), ih hrest, List.mem_cons]
      simp [Ne.symm hkey]

/-- The keys are what gives a value. -/
theorem mem_keys_iff : key ∈ table.keys ↔ (table.get? key).isSome = true := by
  rw [get?, Option.isSome_map, List.find?_isSome, keys, List.mem_map]
  refine exists_congr fun entry => and_congr_right fun _ => ?_
  exact decide_eq_true_iff.symm

end Marginalia.Table
