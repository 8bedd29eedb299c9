import Mathlib.Data.Nat.Find

/-!
# While loops

A loop that reads one input a round.  It ends before a round whose guard fails, or by a
`break` in the body, or never: `whileLoop` runs it with fuel, and `reached` is the state
before each round, as if nothing ever ended it.  The loop ends exactly when some round is
its last (`whileLoop_isSome_iff`), and what it returns is a reached state.
-/

namespace JdHoldings.Loop

variable {σ α : Type*}

/-- The loop, from a round on.  The body says whether it breaks. -/
def whileLoop (guard : σ → Bool) (body : σ → α → σ × Bool) (inputs : ℕ → α) :
    ℕ → ℕ → σ → Option σ
  | 0, _, _ => none
  | fuel + 1, round, state =>
      if guard state then
        let (state', broke) := body state (inputs round)
        if broke then some state' else whileLoop guard body inputs fuel (round + 1) state'
      else some state

/-- The state before a round, when every round before it is run. -/
def reached (body : σ → α → σ × Bool) (inputs : ℕ → α) (start : σ) : ℕ → σ
  | 0 => start
  | round + 1 =>
      let state := reached body inputs start round
      (body state (inputs round)).1

section Rounds

variable (guard : σ → Bool) (body : σ → α → σ × Bool) (inputs : ℕ → α) (start : σ)

/-- The loop goes on after this round. -/
def GoesOn (round : ℕ) : Prop :=
  guard (reached body inputs start round) = true ∧
    (body (reached body inputs start round) (inputs round)).2 = false

instance (round : ℕ) : Decidable (GoesOn guard body inputs start round) :=
  inferInstanceAs (Decidable (_ ∧ _))

variable {guard body inputs start}

/-- A round that goes on costs one unit of fuel. -/
theorem whileLoop_of_goesOn {round : ℕ} (hgoes : GoesOn guard body inputs start round)
    (fuel : ℕ) :
    whileLoop guard body inputs (fuel + 1) round (reached body inputs start round) =
      whileLoop guard body inputs fuel (round + 1) (reached body inputs start (round + 1)) := by
  obtain ⟨hguard, hbreak⟩ := hgoes
  simp only [whileLoop, hguard, hbreak, if_true, Bool.false_eq_true, if_false, reached]

/-- A round that does not go on is the last. -/
theorem whileLoop_of_stop {round : ℕ} (hstop : ¬GoesOn guard body inputs start round)
    (fuel : ℕ) :
    ∃ last, whileLoop guard body inputs (fuel + 1) round (reached body inputs start round) =
      some (reached body inputs start last) := by
  by_cases hguard : guard (reached body inputs start round) = true
  · have hbreak : (body (reached body inputs start round) (inputs round)).2 = true := by
      by_contra hnot
      exact hstop ⟨hguard, Bool.eq_false_iff.mpr hnot⟩
    exact ⟨round + 1, by simp only [whileLoop, hguard, hbreak, if_true, reached]⟩
  · exact ⟨round, by simp only [whileLoop, hguard, Bool.false_eq_true, if_false]⟩

/-- What a loop returns is a reached state. -/
theorem whileLoop_eq_some {fuel round : ℕ} {final : σ}
    (hfinal : whileLoop guard body inputs fuel round (reached body inputs start round) =
      some final) :
    ∃ last, final = reached body inputs start last := by
  induction fuel generalizing round with
  | zero => cases hfinal
  | succ fuel ih =>
      by_cases hgoes : GoesOn guard body inputs start round
      · rw [whileLoop_of_goesOn hgoes] at hfinal
        exact ih hfinal
      · obtain ⟨last, hlast⟩ := whileLoop_of_stop hgoes fuel
        rw [hlast] at hfinal
        exact ⟨last, (Option.some.inj hfinal).symm⟩

/-- A loop that goes on in every round runs out of any fuel. -/
theorem whileLoop_eq_none (hgoes : ∀ round, GoesOn guard body inputs start round)
    (fuel round : ℕ) :
    whileLoop guard body inputs fuel round (reached body inputs start round) = none := by
  induction fuel generalizing round with
  | zero => rfl
  | succ fuel ih => rw [whileLoop_of_goesOn (hgoes round)]; exact ih (round + 1)

/-- With the rounds up to a last one, the loop returns. -/
theorem whileLoop_of_rounds {last : ℕ}
    (hbefore : ∀ round < last, GoesOn guard body inputs start round)
    (hstop : ¬GoesOn guard body inputs start last) {round : ℕ} (hround : round ≤ last) :
    ∃ final, whileLoop guard body inputs (last - round + 1) round
      (reached body inputs start round) = some final := by
  induction hleft : last - round generalizing round with
  | zero =>
      have hlast : round = last := by omega
      rw [hlast]
      obtain ⟨final, hfinal⟩ := whileLoop_of_stop hstop 0
      exact ⟨_, hfinal⟩
  | succ left ih =>
      rw [whileLoop_of_goesOn (hbefore round (by omega))]
      exact ih (by omega) (by omega)

/-- The loop ends exactly when some round does not go on. -/
theorem whileLoop_isSome_iff :
    (∃ fuel final, whileLoop guard body inputs fuel 0 start = some final) ↔
      ∃ round, ¬GoesOn guard body inputs start round := by
  constructor
  · rintro ⟨fuel, final, hfinal⟩
    by_contra hnever
    have hgoes : ∀ round, GoesOn guard body inputs start round := by
      intro round
      by_contra hstop
      exact hnever ⟨round, hstop⟩
    have hnone := whileLoop_eq_none hgoes fuel 0
    rw [reached, hfinal] at hnone
    cases hnone
  · intro hstop
    have hbefore : ∀ round < Nat.find hstop, GoesOn guard body inputs start round := by
      intro round hround
      by_contra hnot
      exact Nat.find_min hstop hround hnot
    obtain ⟨final, hfinal⟩ := whileLoop_of_rounds hbefore (Nat.find_spec hstop) (Nat.zero_le _)
    exact ⟨_, final, hfinal⟩

/-- What every round keeps holds in every round. -/
theorem reached_invariant {I : ℕ → σ → Prop} (hstart : I 0 start)
    (hbody : ∀ round state, I round state → I (round + 1) (body state (inputs round)).1)
    (round : ℕ) : I round (reached body inputs start round) := by
  induction round with
  | zero => exact hstart
  | succ round ih => exact hbody round _ ih

end Rounds

end JdHoldings.Loop
