import Mathlib.Data.List.Basic

/-!
# Runs of a deterministic machine

A machine is a step function `σ → α → σ`; a run is a list of operations folded
over a starting state.  `Along step C` says that every step of a run meets a
condition on the state it is taken in and the operation it performs.

The rule used throughout is `Along.invariant`: an invariant that every step
meeting the condition preserves holds at the end of every such run.  Because
every prefix of a run that meets the condition meets it as well
(`Along.of_append`), this covers every state the run visits.
-/

namespace Run

variable {σ α : Type*} {step : σ → α → σ}

/-- Every step of the run `ops` from `state` meets `C`. -/
def Along (step : σ → α → σ) (C : σ → α → Prop) : σ → List α → Prop
  | _, [] => True
  | state, op :: ops => C state op ∧ Along step C (step state op) ops

@[simp] theorem along_nil (C : σ → α → Prop) (state : σ) : Along step C state [] := trivial

@[simp] theorem along_cons (C : σ → α → Prop) (state : σ) (op : α) (ops : List α) :
    Along step C state (op :: ops) ↔ C state op ∧ Along step C (step state op) ops := Iff.rfl

instance Along.decidable (C : σ → α → Prop) [∀ state op, Decidable (C state op)] :
    ∀ (state : σ) (ops : List α), Decidable (Along step C state ops)
  | _, [] => .isTrue trivial
  | state, op :: ops =>
      haveI := Along.decidable C (step state op) ops
      inferInstanceAs (Decidable (C state op ∧ Along step C (step state op) ops))

theorem along_append (C : σ → α → Prop) (state : σ) (front back : List α) :
    Along step C state (front ++ back) ↔
      Along step C state front ∧ Along step C (front.foldl step state) back := by
  induction front generalizing state with
  | nil => simp
  | cons op ops ih => simp [ih, and_assoc]

theorem Along.of_append {C : σ → α → Prop} {state : σ} {front back : List α}
    (halong : Along step C state (front ++ back)) : Along step C state front :=
  ((along_append C state front back).mp halong).1

theorem along_of_forall {C : σ → α → Prop} (h : ∀ state op, C state op) (state : σ)
    (ops : List α) : Along step C state ops := by
  induction ops generalizing state with
  | nil => trivial
  | cons op ops ih => exact ⟨h state op, ih _⟩

theorem Along.and {C D : σ → α → Prop} {state : σ} {ops : List α} (hC : Along step C state ops)
    (hD : Along step D state ops) :
    Along step (fun state op => C state op ∧ D state op) state ops := by
  induction ops generalizing state with
  | nil => trivial
  | cons op ops ih => exact ⟨⟨hC.1, hD.1⟩, ih hC.2 hD.2⟩

/-- An invariant preserved by every step that meets the condition holds after
every run whose steps meet it. -/
theorem Along.invariant {C : σ → α → Prop} {I : σ → Prop}
    (hstep : ∀ state op, I state → C state op → I (step state op)) {state : σ} {ops : List α}
    (halong : Along step C state ops) (hinit : I state) : I (ops.foldl step state) := by
  induction ops generalizing state with
  | nil => exact hinit
  | cons op ops ih => exact ih halong.2 (hstep state op hinit halong.1)

/-- What the invariant and the condition give at a single step holds along the
whole run. -/
theorem Along.imp {C P : σ → α → Prop} {I : σ → Prop}
    (hstep : ∀ state op, I state → C state op → I (step state op))
    (himp : ∀ state op, I state → C state op → P state op) {state : σ} {ops : List α}
    (halong : Along step C state ops) (hinit : I state) : Along step P state ops := by
  induction ops generalizing state with
  | nil => trivial
  | cons op ops ih =>
      exact ⟨himp state op hinit halong.1, ih halong.2 (hstep state op hinit halong.1)⟩

end Run
