import JdHoldings.Library.Runs

/-!
# Amortized counting

Something that grows along a run grows by no more than the sum of what the single steps
allow, each in the state it is taken in (`Along.le_total`).  With a potential added to what is
counted, this is an amortized bound: a step may pay for what it counts with potential that
was freed before.
-/

namespace Run

variable {σ α : Type*} {step : σ → α → σ}

/-- The sum of what the steps of a run allow. -/
def total (step : σ → α → σ) (gain : σ → α → ℕ) : σ → List α → ℕ
  | _, [] => 0
  | state, op :: ops => gain state op + total step gain (step state op) ops

@[simp] theorem total_nil (gain : σ → α → ℕ) (state : σ) : total step gain state [] = 0 := rfl

@[simp] theorem total_cons (gain : σ → α → ℕ) (state : σ) (op : α) (ops : List α) :
    total step gain state (op :: ops) = gain state op + total step gain (step state op) ops := rfl

/-- What no step lets grow by more than its own gain, a run lets grow by no more than the total. -/
theorem Along.le_total (gain : σ → α → ℕ) (measure : σ → ℕ) {C : σ → α → Prop} {I : σ → Prop}
    (hstep : ∀ state op, I state → C state op → I (step state op))
    (hgrow : ∀ state op, I state → C state op →
      measure (step state op) ≤ measure state + gain state op)
    {state : σ} {ops : List α} (halong : Along step C state ops) (hinit : I state) :
    measure (ops.foldl step state) ≤ measure state + total step gain state ops := by
  induction ops generalizing state with
  | nil => exact Nat.le_refl _
  | cons op ops ih =>
      have hhead := hgrow state op hinit halong.1
      have htail := ih halong.2 (hstep state op hinit halong.1)
      rw [total_cons, List.foldl_cons]
      omega

end Run
