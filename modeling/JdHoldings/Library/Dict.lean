import JdHoldings.Library.Table

/-!
# Dictionaries

A `dict` that is kept in insertion order and whose values carry their own key is a keyed
table.  What a table does not have is `d[key] = value`: it overwrites the value under the
key where there is one, and appends the value where there is none.
-/

namespace Table

variable {ι ρ M : Type*} {key : ρ → ι} [DecidableEq ι] {table : Table ι ρ key} {row other : ρ}
  {k : ι}

/-- `d[key row] = row`. -/
def assign (table : Table ι ρ key) (row : ρ) : Table ι ρ key :=
  match table.get? (key row) with
  | none => (table.insertOrIgnore row).1
  | some _ => table.replace row

theorem assign_of_none (hnone : table.get? (key row) = none) :
    table.assign row = (table.insertOrIgnore row).1 := by
  rw [assign, hnone]

theorem assign_of_some {old : ρ} (hold : table.get? (key row) = some old) :
    table.assign row = table.replace row := by
  rw [assign, hold]

@[simp] theorem get?_assign_self : (table.assign row).get? (key row) = some row := by
  cases hget : table.get? (key row) with
  | none =>
      rw [assign_of_none hget]
      exact get?_insertOrIgnore_self hget
  | some old =>
      rw [assign_of_some hget]
      exact get?_replace_self hget

theorem get?_assign_of_ne (hne : k ≠ key row) : (table.assign row).get? k = table.get? k := by
  unfold assign
  split
  · exact get?_insertOrIgnore_of_ne hne
  · exact get?_replace_of_ne hne

/-- The new value is there, and the values under other keys are the old ones. -/
theorem mem_assign :
    other ∈ table.assign row ↔ other = row ∨ (other ∈ table ∧ key other ≠ key row) := by
  by_cases hkey : key other = key row
  · constructor
    · intro hother
      have hget := get?_eq_some_iff.mpr ⟨hother, hkey⟩
      rw [get?_assign_self] at hget
      exact .inl (Option.some.inj hget).symm
    · rintro (rfl | ⟨-, hne⟩)
      · exact mem_of_get? get?_assign_self
      · exact absurd hkey hne
  · have hsame : (table.assign row).get? (key other) = table.get? (key other) :=
      get?_assign_of_ne hkey
    constructor
    · intro hother
      have hget := get?_eq_some_iff.mpr ⟨hother, rfl⟩
      rw [hsame] at hget
      exact .inr ⟨mem_of_get? hget, hkey⟩
    · rintro (rfl | ⟨hother, -⟩)
      · exact absurd rfl hkey
      · refine mem_of_get? (k := key other) ?_
        rw [hsame]
        exact get?_eq_some_iff.mpr ⟨hother, rfl⟩

/-- Of two assignments under one key the second remains. -/
theorem assign_assign {row' : ρ} (hkey : key row' = key row) :
    (table.assign row).assign row' = table.assign row' := by
  have hpresent : (table.assign row).get? (key row') = some row := by
    rw [hkey, get?_assign_self]
  rw [assign_of_some hpresent]
  cases hget : table.get? (key row) with
  | none =>
      have hget' : table.get? (key row') = none := by rw [hkey, hget]
      rw [assign_of_none hget, assign_of_none hget']
      exact replace_insertOrIgnore hget hkey
  | some old =>
      have hget' : table.get? (key row') = some old := by rw [hkey, hget]
      rw [assign_of_some hget, assign_of_some hget']
      refine eq_of_rows ?_
      simp only [replace, List.map_map]
      refine List.map_congr_left fun other _ => ?_
      by_cases hother : key other = key row
      · simp [hother, hkey]
      · simp [hother, hkey]

/-- An assignment exchanges the weight of what was under the key. -/
theorem sum_assign [AddCommMonoid M] (weight : ρ → M) :
    (table.assign row).sum weight + table.weightAt weight (key row)
      = table.sum weight + weight row := by
  cases hget : table.get? (key row) with
  | none =>
      rw [assign_of_none hget, sum_insertOrIgnore weight hget, weightAt, hget]
      exact add_zero _
  | some old =>
      rw [assign_of_some hget, weightAt, hget]
      exact sum_exchange weight weight hget fun _ _ _ => rfl

end Table
