import Mathlib.Logic.Function.Basic
import Mathlib.Data.Nat.Notation

/-!
# Rows under optimistic locking

Threads share the rows of a table.  A row carries the number of its rewrites.  A
thread reads a row, works out what to do, and writes later; the write looks at the
row once more and goes through only if its version is still the one that was read
(`Checked`).

Between the read and the write the other threads do what they like.  Yet a write
that goes through acts on the row as it stands: whoever has read the current version
has read the current row (`Fresh`), so the call has the effect it would have had
without anybody else (`commit_row`).
-/

/-- A value and the number of its rewrites. -/
structure Versioned (α : Type*) where
  value : α
  version : ℕ
deriving DecidableEq

/-- A read row, and what is to be done with it. -/
structure Pending (κ α γ : Type*) where
  key : κ
  seen : Versioned α
  call : γ

/-- The rows, and where each thread stands. -/
structure Optimistic (τ κ α γ : Type*) where
  row : κ → Versioned α
  pending : τ → Option (Pending κ α γ)

namespace Optimistic

variable {τ κ α γ : Type*}

/-- The write of a call, on the row that was read and on the row as it stands.  A call
that fails, or has nothing to write, writes nothing. -/
abbrev Write (α γ : Type*) := γ → Versioned α → Versioned α → Option (Versioned α)

/-- A write goes through only on the version that was read, and counts. -/
def Checked (write : Write α γ) : Prop :=
  ∀ call seen current next, write call seen current = some next →
    current.version = seen.version ∧ next.version = current.version + 1

section Moves

variable [DecidableEq τ]

/-- The thread gives up what it was doing. -/
def forget (table : Optimistic τ κ α γ) (t : τ) : Optimistic τ κ α γ :=
  { table with pending := Function.update table.pending t none }

/-- The thread reads a row. -/
def read (table : Optimistic τ κ α γ) (t : τ) (key : κ) (call : γ) : Optimistic τ κ α γ :=
  { table with pending := Function.update table.pending t (some ⟨key, table.row key, call⟩) }

/-- The thread writes the row it has read, or fails. -/
def commit [DecidableEq κ] (write : Write α γ) (table : Optimistic τ κ α γ) (t : τ) : Optimistic τ κ α γ :=
  match table.pending t with
  | none => table
  | some pending =>
      match write pending.call pending.seen (table.row pending.key) with
      | none => table.forget t
      | some next => { table.forget t with row := Function.update table.row pending.key next }

end Moves

/-- The process dies. -/
def crash (table : Optimistic τ κ α γ) : Optimistic τ κ α γ :=
  { table with pending := fun _ => none }

/-- Whoever has read the current version of a row has read the current row. -/
def Fresh (table : Optimistic τ κ α γ) : Prop :=
  ∀ t pending, table.pending t = some pending →
    pending.seen.version ≤ (table.row pending.key).version ∧
      (pending.seen.version = (table.row pending.key).version →
        pending.seen = table.row pending.key)

section Rows

variable [DecidableEq τ] (table : Optimistic τ κ α γ) (t : τ) (key : κ) (call : γ)

@[simp] theorem forget_row : (table.forget t).row = table.row := rfl

@[simp] theorem read_row : (table.read t key call).row = table.row := rfl

@[simp] theorem forget_self : (table.forget t).pending t = none := Function.update_self ..

@[simp] theorem read_self :
    (table.read t key call).pending t = some ⟨key, table.row key, call⟩ := Function.update_self ..

end Rows

@[simp] theorem crash_row (table : Optimistic τ κ α γ) : table.crash.row = table.row := rfl

/-! ## Freshness -/

theorem fresh_crash (table : Optimistic τ κ α γ) : table.crash.Fresh := by
  intro t pending hpending
  cases hpending

variable {table : Optimistic τ κ α γ}

section Readers

variable [DecidableEq τ]

theorem forget_pending {t u : τ} {pending : Pending κ α γ}
    (hpending : (table.forget t).pending u = some pending) :
    u ≠ t ∧ table.pending u = some pending := by
  by_cases hu : u = t
  · subst hu
    rw [forget_self] at hpending
    cases hpending
  · refine ⟨hu, ?_⟩
    rw [← hpending]
    exact (Function.update_of_ne hu _ _).symm

theorem Fresh.forget (hfresh : table.Fresh) (t : τ) : (table.forget t).Fresh := by
  intro u pending hpending
  exact hfresh u pending (forget_pending hpending).2

theorem Fresh.read (hfresh : table.Fresh) (t : τ) (key : κ) (call : γ) :
    (table.read t key call).Fresh := by
  intro u pending hpending
  by_cases hu : u = t
  · subst hu
    rw [read_self] at hpending
    obtain rfl := Option.some.inj hpending
    exact ⟨Nat.le_refl _, fun _ => rfl⟩
  · have hother : table.pending u = some pending := by
      rw [← hpending]
      exact (Function.update_of_ne hu _ _).symm
    exact hfresh u pending hother

end Readers

variable [DecidableEq κ]

/-- A rewritten row is newer than everything that was read of it. -/
theorem Fresh.rewrite (hfresh : table.Fresh) {key : κ} {next : Versioned α}
    (hversion : next.version = (table.row key).version + 1) :
    Fresh { table with row := Function.update table.row key next } := by
  intro u pending hpending
  obtain ⟨hle, heq⟩ := hfresh u pending hpending
  by_cases hkey : pending.key = key
  · have hrow : Function.update table.row key next pending.key = next := by
      rw [hkey]
      exact Function.update_self ..
    rw [hkey] at hle
    simp only [hrow]
    constructor
    · omega
    · intro hsame
      omega
  · have hrow : Function.update table.row key next pending.key = table.row pending.key :=
      Function.update_of_ne hkey _ _
    simp only [hrow]
    exact ⟨hle, heq⟩

variable [DecidableEq τ]

/-- What a commit does: nothing, or what the call does on the row as it stands. -/
theorem commit_row {write : Write α γ} (hchecked : Checked write) (hfresh : table.Fresh) (t : τ) :
    (table.commit write t).row = table.row ∨
      ∃ pending next, table.pending t = some pending ∧
        pending.seen = table.row pending.key ∧
        write pending.call (table.row pending.key) (table.row pending.key) = some next ∧
        (table.commit write t).row = Function.update table.row pending.key next := by
  unfold commit
  cases hpending : table.pending t with
  | none => exact Or.inl rfl
  | some pending =>
      simp only
      cases hwrite : write pending.call pending.seen (table.row pending.key) with
      | none => exact Or.inl rfl
      | some next =>
          obtain ⟨hversion, -⟩ := hchecked _ _ _ _ hwrite
          have hseen : pending.seen = table.row pending.key :=
            (hfresh t pending hpending).2 hversion.symm
          rw [hseen] at hwrite
          exact Or.inr ⟨pending, next, rfl, hseen, hwrite, rfl⟩

/-- A commit ends the call of its thread. -/
theorem commit_pending {write : Write α γ} {t u : τ} {pending : Pending κ α γ}
    (hpending : (table.commit write t).pending u = some pending) :
    u ≠ t ∧ table.pending u = some pending := by
  unfold commit at hpending
  cases hcall : table.pending t with
  | none =>
      simp only [hcall] at hpending
      refine ⟨?_, hpending⟩
      rintro rfl
      rw [hcall] at hpending
      cases hpending
  | some call =>
      simp only [hcall] at hpending
      cases hwrite : write call.call call.seen (table.row call.key) with
      | none =>
          rw [hwrite] at hpending
          exact forget_pending hpending
      | some next =>
          rw [hwrite] at hpending
          exact forget_pending hpending

theorem Fresh.commit {write : Write α γ} (hchecked : Checked write) (hfresh : table.Fresh)
    (t : τ) : (table.commit write t).Fresh := by
  unfold Optimistic.commit
  cases hpending : table.pending t with
  | none => exact hfresh
  | some pending =>
      simp only
      cases hwrite : write pending.call pending.seen (table.row pending.key) with
      | none => exact hfresh.forget t
      | some next =>
          obtain ⟨-, hversion⟩ := hchecked _ _ _ _ hwrite
          exact (hfresh.forget t).rewrite hversion

/-- A thread that nobody gets in the way of writes what its call says. -/
theorem commit_read {write : Write α γ} (t : τ) {key : κ} {call : γ} {next : Versioned α}
    (hwrite : write call (table.row key) (table.row key) = some next) :
    ((table.read t key call).commit write t).row = Function.update table.row key next := by
  simp only [commit, read_self, read_row, hwrite]

theorem commit_read_none {write : Write α γ} (t : τ) {key : κ} {call : γ}
    (hwrite : write call (table.row key) (table.row key) = none) :
    ((table.read t key call).commit write t).row = table.row := by
  simp only [commit, read_self, read_row, hwrite, forget_row]

end Optimistic
