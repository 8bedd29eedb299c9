import Mathlib.Algebra.BigOperators.Group.Finset.Basic
import Mathlib.Algebra.BigOperators.Group.List.Basic
import Mathlib.Algebra.Order.BigOperators.Group.List
import Mathlib.Data.List.Nodup

/-!
# Keyed tables

A relational table with a unique key, kept in insertion order.  The rows are a
list, and the uniqueness of the key is carried by the structure, so a table that
breaks its `UNIQUE` constraint cannot be built.

Three operations are enough for the stores verified here: reading a row by its
key, `INSERT OR IGNORE`, and `UPDATE … WHERE key = ?`.  What later proofs use is
how each of them changes an aggregate `SELECT SUM(weight)`: an insert adds the
weight of the new row, and an update exchanges the weight of one row.
-/

/-- A table of rows `ρ` whose `key` column is unique. -/
structure Table (ι ρ : Type*) (key : ρ → ι) where
  rows : List ρ
  nodup : (rows.map key).Nodup

namespace Table

variable {ι ρ M : Type*} {key : ρ → ι}

/-- The table without rows. -/
def empty : Table ι ρ key := ⟨[], List.nodup_nil⟩

instance : Inhabited (Table ι ρ key) := ⟨empty⟩

instance : Membership ρ (Table ι ρ key) := ⟨fun table row => row ∈ table.rows⟩

theorem mem_def {table : Table ι ρ key} {row : ρ} : row ∈ table ↔ row ∈ table.rows := Iff.rfl

theorem eq_of_rows {table table' : Table ι ρ key} (hrows : table.rows = table'.rows) :
    table = table' := by
  cases table
  cases table'
  simpa using hrows

theorem eq_of_key_eq {table : Table ι ρ key} {row other : ρ} (hrow : row ∈ table)
    (hother : other ∈ table) (hkey : key row = key other) : row = other :=
  List.inj_on_of_nodup_map table.nodup hrow hother hkey

/-- `SELECT SUM(weight)`. -/
def sum [AddCommMonoid M] (table : Table ι ρ key) (weight : ρ → M) : M :=
  (table.rows.map weight).sum

theorem sum_congr [AddCommMonoid M] {table : Table ι ρ key} {weight weight' : ρ → M}
    (h : ∀ row ∈ table, weight row = weight' row) : table.sum weight = table.sum weight' :=
  congrArg List.sum (List.map_congr_left h)

theorem sum_add [AddCommMonoid M] (table : Table ι ρ key) (weight weight' : ρ → M) :
    table.sum (fun row => weight row + weight' row) = table.sum weight + table.sum weight' :=
  List.sum_map_add

@[simp] theorem sum_empty [AddCommMonoid M] (weight : ρ → M) :
    (empty : Table ι ρ key).sum weight = 0 := rfl

@[simp] theorem not_mem_empty (row : ρ) : row ∉ (empty : Table ι ρ key) := by
  simp [mem_def, empty]

variable [DecidableEq ι]

/-- `SELECT * WHERE key = k`. -/
def get? (table : Table ι ρ key) (k : ι) : Option ρ :=
  table.rows.find? fun row => decide (key row = k)

/-- `INSERT OR IGNORE`: the flag tells whether a row was inserted. -/
def insertOrIgnore (table : Table ι ρ key) (row : ρ) : Table ι ρ key × Bool :=
  if h : key row ∈ table.rows.map key then (table, false)
  else
    (⟨table.rows ++ [row], by
      simpa [List.nodup_append, table.nodup] using fun a ha hkey => h (by simpa using ⟨a, ha, hkey⟩)⟩,
      true)

/-- `UPDATE … WHERE key = k`: the row under `key row` becomes `row`. -/
def replace (table : Table ι ρ key) (row : ρ) : Table ι ρ key where
  rows := table.rows.map fun other => if key other = key row then row else other
  nodup := by
    have hkeys : (table.rows.map fun other => if key other = key row then row else other).map key
        = table.rows.map key := by
      rw [List.map_map]
      refine List.map_congr_left fun other _ => ?_
      by_cases hother : key other = key row <;> simp [hother]
    exact hkeys ▸ table.nodup

/-! ## Reading by key -/

theorem get?_eq_some_iff {table : Table ι ρ key} {k : ι} {row : ρ} :
    table.get? k = some row ↔ row ∈ table ∧ key row = k := by
  constructor
  · intro hget
    exact ⟨List.mem_of_find?_eq_some hget, by simpa using List.find?_some hget⟩
  · rintro ⟨hmem, rfl⟩
    have hsome : (table.get? (key row)).isSome := by
      simp only [get?, List.find?_isSome]
      exact ⟨row, hmem, by simp⟩
    obtain ⟨other, hother⟩ := Option.isSome_iff_exists.mp hsome
    have hkey : key other = key row := by simpa using List.find?_some hother
    rw [hother, eq_of_key_eq (List.mem_of_find?_eq_some hother) hmem hkey]

theorem get?_eq_none_iff {table : Table ι ρ key} {k : ι} :
    table.get? k = none ↔ ∀ row ∈ table, key row ≠ k := by
  simp [get?, mem_def]

theorem key_of_get? {table : Table ι ρ key} {k : ι} {row : ρ} (hget : table.get? k = some row) :
    key row = k :=
  (get?_eq_some_iff.mp hget).2

theorem mem_of_get? {table : Table ι ρ key} {k : ι} {row : ρ} (hget : table.get? k = some row) :
    row ∈ table :=
  (get?_eq_some_iff.mp hget).1

@[simp] theorem get?_empty (k : ι) : (empty : Table ι ρ key).get? k = none := rfl

/-- What the row under `k` weighs, nothing where there is none. -/
def weightAt [Zero M] (table : Table ι ρ key) (weight : ρ → M) (k : ι) : M :=
  ((table.get? k).map weight).getD 0

/-- A sum over the rows is a sum over the keys. -/
theorem sum_eq_sum_weightAt [AddCommMonoid M] (table : Table ι ρ key) (weight : ρ → M) :
    table.sum weight = ∑ k ∈ (table.rows.map key).toFinset, table.weightAt weight k := by
  rw [List.sum_toFinset _ table.nodup, List.map_map]
  refine congrArg List.sum (List.map_congr_left fun row hrow => ?_)
  have hget : table.get? (key row) = some row := get?_eq_some_iff.mpr ⟨hrow, rfl⟩
  simp [weightAt, hget]

/-- Tables that agree under every key have the same sum, in whatever order their rows
were inserted. -/
theorem sum_eq_of_weightAt [AddCommMonoid M] {table table' : Table ι ρ key} {weight weight' : ρ → M}
    (hsame : ∀ k, table.weightAt weight k = table'.weightAt weight' k) :
    table.sum weight = table'.sum weight' := by
  have hoff : ∀ (part : Table ι ρ key) (weight : ρ → M) (k : ι),
      k ∉ (part.rows.map key).toFinset → part.weightAt weight k = 0 := by
    intro part weight k hk
    have hnone : part.get? k = none := by
      refine get?_eq_none_iff.mpr fun row hrow hkey => hk ?_
      exact List.mem_toFinset.mpr (List.mem_map.mpr ⟨row, hrow, hkey⟩)
    simp [weightAt, hnone]
  have hwiden : ∀ (part : Table ι ρ key) (weight : ρ → M) (keys : Finset ι),
      (part.rows.map key).toFinset ⊆ keys →
        part.sum weight = ∑ k ∈ keys, part.weightAt weight k := by
    intro part weight keys hsubset
    rw [sum_eq_sum_weightAt]
    exact Finset.sum_subset hsubset fun k _ hk => hoff part weight k hk
  rw [hwiden table weight _ Finset.subset_union_left,
    hwiden table' weight' _ Finset.subset_union_right]
  exact Finset.sum_congr rfl fun k _ => hsame k

/-! ## Insert or ignore -/

theorem insertOrIgnore_of_some {table : Table ι ρ key} {row old : ρ}
    (hget : table.get? (key row) = some old) : table.insertOrIgnore row = (table, false) := by
  obtain ⟨hmem, hkey⟩ := get?_eq_some_iff.mp hget
  have hkeys : key row ∈ table.rows.map key := List.mem_map.mpr ⟨old, hmem, hkey⟩
  simp only [insertOrIgnore, dif_pos hkeys]

theorem insertOrIgnore_of_none {table : Table ι ρ key} {row : ρ}
    (hget : table.get? (key row) = none) :
    (table.insertOrIgnore row).1.rows = table.rows ++ [row] ∧
      (table.insertOrIgnore row).2 = true := by
  have hkeys : key row ∉ table.rows.map key := fun hmem => by
    obtain ⟨other, hother, hkey⟩ := List.mem_map.mp hmem
    exact get?_eq_none_iff.mp hget other hother hkey
  simp only [insertOrIgnore, dif_neg hkeys]
  exact ⟨trivial, trivial⟩

/-- The row was inserted exactly when its key was free. -/
theorem insertOrIgnore_snd {table : Table ι ρ key} {row : ρ} :
    (table.insertOrIgnore row).2 = true ↔ table.get? (key row) = none := by
  cases hget : table.get? (key row) with
  | none => simp [(insertOrIgnore_of_none hget).2]
  | some old => simp [insertOrIgnore_of_some hget]

theorem mem_insertOrIgnore {table : Table ι ρ key} {row other : ρ}
    (hget : table.get? (key row) = none) :
    other ∈ (table.insertOrIgnore row).1 ↔ other ∈ table ∨ other = row := by
  simp [mem_def, (insertOrIgnore_of_none hget).1]

theorem get?_insertOrIgnore_self {table : Table ι ρ key} {row : ρ}
    (hget : table.get? (key row) = none) :
    (table.insertOrIgnore row).1.get? (key row) = some row :=
  get?_eq_some_iff.mpr ⟨(mem_insertOrIgnore hget).mpr (Or.inr rfl), rfl⟩

theorem get?_insertOrIgnore_of_ne {table : Table ι ρ key} {row : ρ} {k : ι} (hne : k ≠ key row) :
    (table.insertOrIgnore row).1.get? k = table.get? k := by
  cases hget : table.get? (key row) with
  | some old => rw [insertOrIgnore_of_some hget]
  | none =>
      have hlast : (decide (key row = k)) = false := by simpa using fun h => hne h.symm
      simp only [get?, (insertOrIgnore_of_none hget).1, List.find?_append, List.find?_cons, hlast,
        List.find?_nil, Option.or_none]

theorem sum_insertOrIgnore [AddCommMonoid M] {table : Table ι ρ key} {row : ρ} (weight : ρ → M)
    (hget : table.get? (key row) = none) :
    (table.insertOrIgnore row).1.sum weight = table.sum weight + weight row := by
  simp [sum, (insertOrIgnore_of_none hget).1]

/-! ## Update by key -/

theorem get?_replace_self {table : Table ι ρ key} {row old : ρ}
    (hget : table.get? (key row) = some old) : (table.replace row).get? (key row) = some row := by
  obtain ⟨hmem, hkey⟩ := get?_eq_some_iff.mp hget
  refine get?_eq_some_iff.mpr ⟨List.mem_map.mpr ⟨old, hmem, ?_⟩, rfl⟩
  rw [if_pos hkey]

theorem get?_replace_of_ne {table : Table ι ρ key} {row : ρ} {k : ι} (hne : k ≠ key row) :
    (table.replace row).get? k = table.get? k := by
  simp only [get?, replace]
  induction table.rows with
  | nil => rfl
  | cons other rest ih =>
      by_cases hother : key other = key row
      · have hrow : decide (key row = k) = false := by simpa using fun h => hne h.symm
        have hold : decide (key other = k) = false := by rw [hother]; exact hrow
        simp only [List.map_cons, List.find?_cons, if_pos hother, hrow, hold]
        exact ih
      · simp only [List.map_cons, List.find?_cons, if_neg hother]
        cases decide (key other = k) with
        | true => rfl
        | false => exact ih

/-- An update neither adds a key nor removes one. -/
theorem isSome_get?_replace {table : Table ι ρ key} {row old : ρ} (k : ι)
    (hget : table.get? (key row) = some old) :
    ((table.replace row).get? k).isSome = (table.get? k).isSome := by
  by_cases hk : k = key row
  · rw [hk, get?_replace_self hget, hget]
    rfl
  · rw [get?_replace_of_ne hk]

/-- An insert removes no key. -/
theorem isSome_get?_insertOrIgnore {table : Table ι ρ key} {row : ρ} {k : ι}
    (hget : (table.get? k).isSome = true) :
    ((table.insertOrIgnore row).1.get? k).isSome = true := by
  by_cases hk : k = key row
  · subst hk
    obtain ⟨old, hold⟩ := Option.isSome_iff_exists.mp hget
    rw [insertOrIgnore_of_some hold]
    exact hget
  · rw [get?_insertOrIgnore_of_ne hk]
    exact hget

theorem mem_replace {table : Table ι ρ key} {row other : ρ} (hother : other ∈ table.replace row) :
    other = row ∨ (other ∈ table ∧ key other ≠ key row) := by
  obtain ⟨source, hsource, rfl⟩ := List.mem_map.mp hother
  by_cases hkey : key source = key row
  · simp [hkey]
  · rw [if_neg hkey]
    exact Or.inr ⟨hsource, hkey⟩

/-- Exchanging the row under one key exchanges its weight in the sum.  The two
weights may differ, as long as they agree on every other row: this covers an
update of the row itself and an update of data the weight looks up by key. -/
theorem sum_exchange [AddCommMonoid M] {table : Table ι ρ key} {row old : ρ} (weight weight' : ρ → M)
    (hget : table.get? (key row) = some old)
    (hoff : ∀ other ∈ table, key other ≠ key row → weight' other = weight other) :
    (table.replace row).sum weight' + weight old = table.sum weight + weight' row := by
  obtain ⟨hmem, hkey⟩ := get?_eq_some_iff.mp hget
  obtain ⟨front, back, hrows⟩ := List.append_of_mem (mem_def.mp hmem)
  have hnodup := table.nodup
  simp only [hrows, List.map_append, List.map_cons, List.nodup_append, List.nodup_cons] at hnodup
  have hne : ∀ other ∈ front ++ back, key other ≠ key row := by
    intro other hother hsame
    rcases List.mem_append.mp hother with hfront | hback
    · exact hnodup.2.2 (key other) (List.mem_map_of_mem hfront) (key old) (by simp)
        (hsame.trans hkey.symm)
    · exact hnodup.2.1.1 (List.mem_map.mpr ⟨other, hback, hsame.trans hkey.symm⟩)
  have hin : ∀ other ∈ front ++ back, other ∈ table := by
    intro other hother
    rw [mem_def, hrows]
    rcases List.mem_append.mp hother with hfront | hback <;> simp [*]
  have hmap : ∀ part : List ρ, (∀ other ∈ part, other ∈ front ++ back) →
      (part.map fun other => if key other = key row then row else other).map weight'
        = part.map weight := by
    intro part hpart
    rw [List.map_map]
    refine List.map_congr_left fun other hother => ?_
    have hother' := hpart other hother
    simp only [Function.comp_apply, if_neg (hne other hother')]
    exact hoff other (hin other hother') (hne other hother')
  have hfront := hmap front fun other h => List.mem_append_left _ h
  have hback := hmap back fun other h => List.mem_append_right _ h
  simp only [sum, replace, hrows, List.map_append, List.map_cons, List.sum_append, List.sum_cons,
    hfront, hback, if_pos hkey]
  ac_rfl

/-- Replacing a row by itself leaves the table as it is. -/
theorem replace_self {table : Table ι ρ key} {row : ρ} (hget : table.get? (key row) = some row) :
    table.replace row = table := by
  have hmem := mem_of_get? hget
  have hrows : (table.replace row).rows = table.rows := by
    refine (List.map_congr_left fun other hother => ?_).trans (List.map_id _)
    by_cases hkey : key other = key row
    · have hsame : other = row := eq_of_key_eq hother hmem hkey
      simp [hsame]
    · simp [hkey]
  exact eq_of_rows hrows

/-- Inserting a fresh row and updating it inserts the updated row. -/
theorem replace_insertOrIgnore {table : Table ι ρ key} {row row' : ρ}
    (hget : table.get? (key row) = none) (hkey : key row' = key row) :
    (table.insertOrIgnore row).1.replace row' = (table.insertOrIgnore row').1 := by
  have hget' : table.get? (key row') = none := by rw [hkey, hget]
  have hold : (table.rows.map fun other => if key other = key row' then row' else other)
      = table.rows := by
    refine (List.map_congr_left fun other hother => ?_).trans (List.map_id _)
    rw [if_neg (get?_eq_none_iff.mp hget' other hother)]
    rfl
  have hrows : ((table.insertOrIgnore row).1.replace row').rows
      = (table.insertOrIgnore row').1.rows := by
    rw [(insertOrIgnore_of_none hget').1]
    simp only [replace, (insertOrIgnore_of_none hget).1, List.map_append, hold, List.map_cons,
      if_pos hkey.symm, List.map_nil]
  exact eq_of_rows hrows

/-- A change of the data looked up under one key exchanges one weight. -/
theorem sum_reweigh [AddCommMonoid M] {table : Table ι ρ key} {row : ρ} (weight weight' : ρ → M)
    (hget : table.get? (key row) = some row)
    (hoff : ∀ other ∈ table, key other ≠ key row → weight' other = weight other) :
    table.sum weight' + weight row = table.sum weight + weight' row := by
  have hexchange := sum_exchange weight weight' hget hoff
  rwa [replace_self hget] at hexchange

end Table
