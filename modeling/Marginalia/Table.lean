import Marginalia.Text.Basic

/-!
# `Marginalia.Table`: values under texts

A table keeps values under texts as keys, in ascending order of the keys
and one for each. Texts are compared character by character, which is
also the order of their bytes. A key that was put in gives its value
(`get?_insert_self`), and no other key is touched (`get?_insert_of_ne`).
-/

set_option autoImplicit false

namespace Marginalia

/-- Values under keys, in ascending order of the keys. -/
structure Table (α : Type) where
  entries : List (Text × α)
deriving DecidableEq

namespace Table

variable {α β : Type}

/-- The table without entries. -/
def empty : Table α := ⟨[]⟩

instance : Inhabited (Table α) := ⟨empty⟩

/-- Puts a value in its place among sorted entries, over an older one
under the same key. -/
def insertSorted (key : Text) (value : α) : List (Text × α) → List (Text × α)
  | [] => [(key, value)]
  | (k, v) :: rest =>
    if key < k then (key, value) :: (k, v) :: rest
    else if key = k then (key, value) :: rest
    else (k, v) :: insertSorted key value rest

/-- The table with `value` under `key`. -/
def insert (table : Table α) (key : Text) (value : α) : Table α :=
  ⟨insertSorted key value table.entries⟩

/-- The value under `key`. -/
def get? (table : Table α) (key : Text) : Option α :=
  (table.entries.find? (·.1 = key)).map (·.2)

/-- The keys in ascending order. -/
def keys (table : Table α) : List Text :=
  table.entries.map (·.1)

/-- The number of keys. -/
def size (table : Table α) : Nat :=
  table.entries.length

/-- The table of a list of entries, where a later one replaces an earlier
one under the same key. -/
def ofList (entries : List (Text × α)) : Table α :=
  entries.foldl (fun table (key, value) => table.insert key value) empty

/-- The table with every value changed by `f`. -/
def map (f : α → β) (table : Table α) : Table β :=
  ⟨table.entries.map fun (key, value) => (key, f value)⟩

/-! ### Looking up what was put in

Neither law asks for the entries to be in order. -/

theorem get?_insert_self (table : Table α) (key : Text) (value : α) :
    (table.insert key value).get? key = some value := by
  obtain ⟨entries⟩ := table
  simp only [get?, insert]
  induction entries with
  | nil => simp [insertSorted]
  | cons entry rest ih =>
    obtain ⟨k, v⟩ := entry
    simp only [insertSorted]
    split
    · simp
    · split
      · simp
      · next _ hne => simpa [Ne.symm hne] using ih

theorem get?_insert_of_ne (table : Table α) {key other : Text} (value : α) (h : key ≠ other) :
    (table.insert key value).get? other = table.get? other := by
  obtain ⟨entries⟩ := table
  simp only [get?, insert]
  induction entries with
  | nil => simp [insertSorted, h]
  | cons entry rest ih =>
    obtain ⟨k, v⟩ := entry
    simp only [insertSorted]
    split
    · simp [h]
    · split
      · next _ heq =>
        subst heq
        simp [h]
      · by_cases hk : k = other
        · simp [hk]
        · simpa [hk] using ih

end Table

end Marginalia
