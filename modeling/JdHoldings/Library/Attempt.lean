import JdHoldings.Library.Proc

/-!
# Steps that write and raise

`Proc.transaction` takes back what it wrote when it raises.  `Proc.attempt` is a statement
that has committed by then: the write stays, whatever its end.
-/

namespace Proc

variable {σ Q : Type} {A : Q → Type} {ε α : Type}

/-- One step that writes, and then returns or raises. -/
def attempt (f : σ → σ × Except ε α) : Proc σ Q A ε α :=
  Prog.atom (fun state => (f state).1) fun state => Prog.done (f state).2

variable {D : Prog.Discipline σ Q A} {held : Bool} {f : σ → σ × Except ε α}

theorem Atoms.attempt {P : (σ → σ) → Prop} (hf : P fun state => (f state).1) :
    Atoms P (Proc.attempt f : Proc σ Q A ε α) := ⟨hf, fun _ => trivial⟩

theorem Atoms.transaction {P : (σ → σ) → Prop} {g : σ → Except ε (σ × α)} (hg : P (committed g)) :
    Atoms P (Proc.transaction g : Proc σ Q A ε α) := ⟨hg, fun _ => trivial⟩

/-- Both ends of the step are reached with what it wrote. -/
theorem wp_attempt {ok : Bool → α → σ → Prop} {err : Bool → ε → σ → Prop} {state : σ}
    (hstep : ∀ state', D.rely held state state' → D.invariant state' →
      D.guarantee held state' (f state').1 ∧ D.invariant (f state').1)
    (hok : ∀ state' value, D.rely held state state' → D.invariant state' →
      (f state').2 = .ok value → ok held value (f state').1)
    (herr : ∀ state' error, D.rely held state state' → (f state').2 = .error error →
      err held error (f state').1) :
    wp D ok err (attempt f : Proc σ Q A ε α) held state := by
  intro state' hrely hinvariant
  obtain ⟨hguarantee, hkept⟩ := hstep state' hrely hinvariant
  refine ⟨hguarantee, hkept, ?_⟩
  cases hend : (f state').2 with
  | error error =>
      simp only [hend]
      exact herr state' error hrely hend
  | ok value =>
      simp only [hend]
      exact hok state' value hrely hinvariant hend

end Proc
