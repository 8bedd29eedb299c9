import JdHoldings.Backtest.PortfolioEngine
import JdHoldings.Infrastructure.MarketClock
import JdHoldings.Library.Raise

/-!
# The policy of the initial onboarding

The first entry of the portfolio is staged: stage `k` opens the fraction `k` of every
target quantity.  `fromConfig` accepts a policy only if its fractions rise strictly from
above zero to one (`Staged`).  The waiting time between stages is counted in completed
sessions, and counting is additive over sessions (`sessionsElapsed_add`).
-/

namespace JdHoldings

/-! ## Loading -/

/-- `initial_onboarding` of the configuration file. -/
structure RawOnboarding where
  enabled : Option Bool := none
  cumulativeFractions : Option (List Decimal) := none
  minimumSessionsBetweenStages : Option ℤ := none

namespace InitialOnboardingPolicy

/-- The loop over the fractions in `validate`, after a previous fraction. -/
def validateFractions : Decimal → List Decimal → Py Unit
  | _, [] => .ok ()
  | previous, fraction :: fractions => do
      raiseIf (¬(0 < fraction ∧ fraction ≤ 1))
        (.value "initial_onboarding 누적 비율은 0 초과 1 이하여야 합니다")
      raiseIf (fraction ≤ previous)
        (.value "initial_onboarding 누적 비율은 단계마다 증가해야 합니다")
      validateFractions fraction fractions

/-- `validate`. -/
def validate (cumulativeFractions : List Decimal) (minimumSessionsBetweenStages : ℤ) :
    Py Unit := do
  raiseIf (cumulativeFractions = [])
    (.value "initial_onboarding cumulative_fractions가 비어 있습니다")
  validateFractions 0 cumulativeFractions
  raiseIf (cumulativeFractions.getLast? ≠ some 1)
    (.value "initial_onboarding 마지막 단계는 100%여야 합니다")
  raiseIf (minimumSessionsBetweenStages < 0)
    (.value "initial_onboarding 거래일 간격은 0 이상이어야 합니다")

/-- `from_config`. -/
def fromConfig (raw : RawOnboarding) : Py InitialOnboardingPolicy := do
  let cumulativeFractions := raw.cumulativeFractions.getD [1]
  let minimumSessions := raw.minimumSessionsBetweenStages.getD 0
  validate cumulativeFractions minimumSessions
  return {
    enabled := raw.enabled.getD false
    cumulativeFractions := cumulativeFractions
    minimumSessionsBetweenStages := minimumSessions.toNat }

/-- The fractions of an accepted policy. -/
structure Staged (policy : InitialOnboardingPolicy) : Prop where
  pos : ∀ fraction ∈ policy.cumulativeFractions, 0 < fraction
  increasing : policy.cumulativeFractions.Pairwise (· < ·)
  last : policy.cumulativeFractions.getLast? = some 1

theorem validateFractions_ok {previous : Decimal} {fractions : List Decimal}
    (hok : validateFractions previous fractions = .ok ()) :
    (∀ fraction ∈ fractions, 0 < fraction) ∧ (previous :: fractions).Pairwise (· < ·) := by
  induction fractions generalizing previous with
  | nil => exact ⟨fun _ hmem => absurd hmem List.not_mem_nil, List.pairwise_singleton _ _⟩
  | cons fraction fractions ih =>
      simp only [validateFractions, Except.bind_eq_ok, raiseIf_eq_ok, not_not, not_le] at hok
      obtain ⟨-, ⟨hpos, -⟩, -, hprevious, hrest⟩ := hok
      obtain ⟨hall, hsorted⟩ := ih hrest
      constructor
      · intro other hother
        rcases List.mem_cons.mp hother with rfl | hother
        · exact hpos
        · exact hall other hother
      · refine List.pairwise_cons.mpr ⟨?_, hsorted⟩
        intro other hother
        rcases List.mem_cons.mp hother with rfl | hother
        · exact hprevious
        · exact hprevious.trans ((List.pairwise_cons.mp hsorted).1 other hother)

/-- An accepted policy is staged. -/
theorem fromConfig_staged {raw : RawOnboarding} {policy : InitialOnboardingPolicy}
    (hok : fromConfig raw = .ok policy) : policy.Staged := by
  simp only [fromConfig, validate, Except.bind_eq_ok, raiseIf_eq_ok, not_not] at hok
  obtain ⟨-, ⟨-, -, u, hfractions, -, hlast, -⟩, hpolicy⟩ := hok
  cases hpolicy
  obtain ⟨hpos, hsorted⟩ := validateFractions_ok hfractions
  exact ⟨hpos, (List.pairwise_cons.mp hsorted).2, hlast⟩

/-! ## Fractions of stages -/

namespace Staged

variable {policy : InitialOnboardingPolicy} {stage later : ℕ}

theorem totalStages_pos (hstaged : policy.Staged) : 0 < policy.totalStages := by
  rw [totalStages, List.length_pos_iff]
  intro hnil
  have hlast := hstaged.last
  rw [hnil] at hlast
  cases hlast

theorem fractionForStage_eq (hpos : 0 < stage) (hle : stage ≤ policy.totalStages) :
    policy.fractionForStage stage =
      policy.cumulativeFractions.get ⟨stage - 1, by rw [totalStages] at hle; omega⟩ := by
  have hlt : stage - 1 < policy.cumulativeFractions.length := by
    rw [totalStages] at hle
    omega
  rw [fractionForStage, List.getD_eq_getElem?_getD, List.getElem?_eq_getElem hlt]
  rfl

/-- A later stage opens more. -/
theorem fractionForStage_lt (hstaged : policy.Staged) (hpos : 0 < stage) (hlt : stage < later)
    (hle : later ≤ policy.totalStages) :
    policy.fractionForStage stage < policy.fractionForStage later := by
  rw [fractionForStage_eq hpos (by omega), fractionForStage_eq (by omega) hle]
  refine List.pairwise_iff_get.mp hstaged.increasing _ _ ?_
  rw [Fin.mk_lt_mk]
  omega

/-- The last stage opens everything. -/
theorem fractionForStage_total (hstaged : policy.Staged) :
    policy.fractionForStage policy.totalStages = 1 := by
  have hlast := hstaged.last
  rw [List.getLast?_eq_getElem?] at hlast
  rw [fractionForStage, List.getD, totalStages, hlast]
  rfl

theorem fractionForStage_pos (hstaged : policy.Staged) (hpos : 0 < stage)
    (hle : stage ≤ policy.totalStages) : 0 < policy.fractionForStage stage := by
  rw [fractionForStage_eq hpos hle]
  exact hstaged.pos _ (List.get_mem _ _)

theorem fractionForStage_mono (hstaged : policy.Staged) (hpos : 0 < stage) (hlt : stage ≤ later)
    (hle : later ≤ policy.totalStages) :
    policy.fractionForStage stage ≤ policy.fractionForStage later := by
  rcases hlt.eq_or_lt with rfl | hlt
  · exact le_rfl
  · exact (hstaged.fractionForStage_lt hpos hlt hle).le

theorem fractionForStage_le_one (hstaged : policy.Staged) (hpos : 0 < stage)
    (hle : stage ≤ policy.totalStages) : policy.fractionForStage stage ≤ 1 := by
  rw [← hstaged.fractionForStage_total]
  exact hstaged.fractionForStage_mono hpos hle le_rfl

end Staged

end InitialOnboardingPolicy

/-! ## Scaled targets -/

/-- `scaled_target_quantity`. -/
def scaledTargetQuantity (fullTarget : ℕ) (fraction : Decimal) : Py ℕ := do
  raiseIf (¬(0 ≤ fraction ∧ fraction ≤ 1)) (.value "fraction은 0~1이어야 합니다")
  return if fraction = 1 then fullTarget else ⌊fullTarget * fraction⌋₊

theorem scaledTargetQuantity_eq {fraction : Decimal} (hnonneg : 0 ≤ fraction) (hle : fraction ≤ 1)
    (fullTarget : ℕ) : scaledTargetQuantity fullTarget fraction = .ok ⌊fullTarget * fraction⌋₊ := by
  rw [scaledTargetQuantity, (raiseIf_eq_ok (u := ())).mpr (not_not.mpr ⟨hnonneg, hle⟩)]
  refine congrArg Except.ok ?_
  split
  next hone => rw [hone, mul_one, Nat.floor_natCast]
  · rfl

/-! ## Sessions -/

namespace ExchangeCalendar

variable (calendar : ExchangeCalendar)

/-- `sessions_in_range`, both ends included. -/
def sessionsInRange (start end_ : ℕ) : List ℕ :=
  (List.range' start (end_ + 1 - start)).filter fun day => (calendar.session day).isSome

/-- `sessions_elapsed`. -/
def sessionsElapsed (start : Option ℕ) (end_ : ℕ) : ℕ :=
  match start with
  | none => 0
  | some start => if end_ ≤ start then 0 else (calendar.sessionsInRange start end_).length - 1

variable {calendar}

variable (calendar) in
theorem sessionsInRange_append {start middle end_ : ℕ} (hstart : start ≤ middle)
    (hend : middle ≤ end_ + 1) :
    calendar.sessionsInRange start end_ =
      (List.range' start (middle - start)).filter (fun day => (calendar.session day).isSome) ++
        calendar.sessionsInRange middle end_ := by
  have hsplit : List.range' start (end_ + 1 - start) =
      List.range' start (middle - start) ++ List.range' middle (end_ + 1 - middle) := by
    have happend := List.range'_append_1 (s := start) (m := middle - start) (n := end_ + 1 - middle)
    rw [show start + (middle - start) = middle by omega,
      show middle - start + (end_ + 1 - middle) = end_ + 1 - start by omega] at happend
    exact happend.symm
  rw [sessionsInRange, hsplit, List.filter_append]
  rfl

theorem sessionsInRange_self {day : ℕ} (hsession : (calendar.session day).isSome) :
    calendar.sessionsInRange day day = [day] := by
  rw [sessionsInRange, show day + 1 - day = 1 by omega]
  simp [hsession]

/-- Counting from a session, without the case of an empty range. -/
theorem sessionsElapsed_eq {start end_ : ℕ} (hsession : (calendar.session start).isSome)
    (hle : start ≤ end_) :
    calendar.sessionsElapsed (some start) end_ + 1 = (calendar.sessionsInRange start end_).length := by
  have hfirst : 0 < (calendar.sessionsInRange start end_).length := by
    rw [List.length_pos_iff_exists_mem]
    refine ⟨start, List.mem_filter.mpr ⟨List.mem_range'_1.mpr ⟨le_rfl, by omega⟩, hsession⟩⟩
  unfold sessionsElapsed
  dsimp only
  split
  next hend =>
    rw [le_antisymm hend hle, sessionsInRange_self hsession]
    rfl
  · omega

/-- Sessions elapse one stretch after the other. -/
theorem sessionsElapsed_add {start middle end_ : ℕ} (hstart : (calendar.session start).isSome)
    (hmiddle : (calendar.session middle).isSome) (hbefore : start ≤ middle)
    (hafter : middle ≤ end_) :
    calendar.sessionsElapsed (some start) end_ =
      calendar.sessionsElapsed (some start) middle + calendar.sessionsElapsed (some middle) end_ := by
  have hwhole := sessionsElapsed_eq hstart (hbefore.trans hafter)
  have hfirst := sessionsElapsed_eq hstart hbefore
  have hsecond := sessionsElapsed_eq hmiddle hafter
  have hlong := congrArg List.length
    (sessionsInRange_append calendar hbefore (Nat.le_succ_of_le hafter))
  have hshort := congrArg List.length
    (sessionsInRange_append calendar hbefore (Nat.le_succ middle))
  rw [List.length_append] at hlong hshort
  rw [sessionsInRange_self hmiddle, List.length_singleton] at hshort
  omega

theorem sessionsElapsed_mono {start earlier end_ : ℕ} (hearlier : (calendar.session earlier).isSome)
    (hstart : (calendar.session start).isSome) (hbefore : earlier ≤ start) (hafter : start ≤ end_) :
    calendar.sessionsElapsed (some start) end_ ≤ calendar.sessionsElapsed (some earlier) end_ := by
  rw [sessionsElapsed_add hearlier hstart hbefore hafter]
  exact Nat.le_add_left _ _

end ExchangeCalendar

end JdHoldings
