import JdHoldings.Automation.Service
import JdHoldings.Library.Runs

/-!
# Recovery from a transient provider error

A broker outage that hides the account arms a recovery, which a safety cycle advances
when its reconciliation is clean and which is over at the second advance
(`advance_transient_recovery`).  The recovery is meant to ask for two clean cycles in a
row, but only a new outage resets the count.  A mismatch, or a reconciliation that fails
for another reason, leaves it as it is, and a cycle whose order monitor failed advances
it like a clean one.

`RecoveryRun.Careful` says when none of that happens to a pending recovery.  Then a ready
recovery has two clean cycles behind it (`ready_after_two_clean_cycles`), and every step
that is not careful can be continued to a ready recovery that does not
(`not_two_clean_of_careless`).
-/

namespace JdHoldings

/-! ## The persisted count -/

/-- The text under `jh_auto_transient_clean_streak`, as `int(… or "0")` reads it. -/
inductive StreakText where
  | missing
  | malformed
  | number (value : ℤ)
deriving DecidableEq, Repr

/-- The count, 0 where there is none. -/
def StreakText.value : StreakText → ℤ
  | .missing | .malformed => 0
  | .number value => value

/-- The two keys of the recovery. -/
structure RecoveryKeys where
  pending : Option Bool := none
  cleanStreak : StreakText := .missing
deriving DecidableEq, Repr

/-- `TRANSIENT_RECOVERY_REQUIRED_CLEAN_CYCLES`. -/
def transientRecoveryRequiredCleanCycles : ℤ := 2

/-- `arm_transient_recovery`. -/
def armTransientRecovery : RecoveryKeys where
  pending := some true
  cleanStreak := .number 0

/-- `advance_transient_recovery`: whether the recovery is over, and the count. -/
def RecoveryKeys.advanceTransientRecovery (keys : RecoveryKeys) : RecoveryKeys × Bool × ℤ :=
  if keys.pending ≠ some true then (keys, true, 0)
  else
    let streak := keys.cleanStreak.value + 1
    if streak < transientRecoveryRequiredCleanCycles then
      ({ keys with cleanStreak := .number streak }, false, streak)
    else ({ pending := some false, cleanStreak := .number 0 }, true, streak)

/-! ## The safety cycle -/

/-- How `reconciliation_service.run()` ends. -/
inductive ReconciliationOutcome where
  | clean
  | mismatches
  | transientError
  | otherError
deriving DecidableEq, Repr

/-- What a cycle meets: the outcomes of its parts, and the keys it reads. -/
structure CycleOutcome where
  orderMonitorFails : Bool := false
  /-- Whether the SGOV part fails, where there is one. -/
  idleCashFails : Option Bool := none
  reconciliation : ReconciliationOutcome := .clean
  system : SystemState := {}
  dailyProviderRecoveryPending : Option Bool := none
  dailyAnalysisBlocksAuto : Bool := false

/-- What a cycle leaves besides the keys of the recovery. -/
structure CycleReport where
  system : SystemState
  /-- The answer of `advance_transient_recovery`, where it is asked. -/
  recovery : Option (Bool × ℤ)
  /-- The return value of the cycle. -/
  clean : Bool

/-- `_quarantine_transient_reconciliation`, the part after the recovery is armed. -/
def SystemState.quarantineTransient (system : SystemState) : SystemState :=
  let settings := system.settings
  if settings.launchAuthorized && !settings.operatorHaltLatched && !settings.quarantine then
    { system with
      startupQuarantine := some true
      autoState := some .autoQuarantine
      operatorBuyHalt := some true }
  else system

namespace CycleOutcome

/-- `monitor_clean`. -/
def monitorClean (outcome : CycleOutcome) : Bool :=
  !outcome.orderMonitorFails && !(outcome.idleCashFails.getD false)

/-- Nothing in the cycle failed and nothing was found. -/
def isClean (outcome : CycleOutcome) : Bool :=
  outcome.monitorClean && decide (outcome.reconciliation = .clean)

end CycleOutcome

/-- `_run_order_safety_cycle`. -/
def RecoveryKeys.runOrderSafetyCycle (keys : RecoveryKeys) (outcome : CycleOutcome) :
    RecoveryKeys × CycleReport :=
  match outcome.reconciliation with
  | .transientError =>
      (armTransientRecovery, {
        system := outcome.system.quarantineTransient, recovery := none, clean := false })
  | .otherError | .mismatches =>
      (keys, { system := outcome.system, recovery := none, clean := false })
  | .clean =>
      let advanced := keys.advanceTransientRecovery
      let reconciliationClean := advanced.2.1 &&
        !decide (outcome.dailyProviderRecoveryPending = some true) &&
        !outcome.dailyAnalysisBlocksAuto
      (advanced.1, {
        system := outcome.system
        recovery := some advanced.2
        clean := outcome.monitorClean && reconciliationClean })

/-! ## Runs of cycles -/

/-- The keys between two cycles, and whether the last cycle was clean. -/
structure RecoveryRun where
  keys : RecoveryKeys
  lastClean : Bool
deriving DecidableEq, Repr

namespace RecoveryRun

/-- After the cycle that met the outage. -/
def armed : RecoveryRun where
  keys := armTransientRecovery
  lastClean := false

def step (run : RecoveryRun) (outcome : CycleOutcome) : RecoveryRun where
  keys := (run.keys.runOrderSafetyCycle outcome).1
  lastClean := outcome.isClean

/-- A cycle at which a pending recovery is reported over is clean, and so is the one
before it. -/
def ReadyOnlyAfterTwoClean (run : RecoveryRun) (outcome : CycleOutcome) : Prop :=
  run.keys.pending = some true →
    ∀ streak, (run.keys.runOrderSafetyCycle outcome).2.recovery = some (true, streak) →
      outcome.isClean = true ∧ run.lastClean = true

/-- While the recovery is pending, no cycle with a failed monitor has a clean
reconciliation, and after a clean one neither a mismatch nor another error follows. -/
def Careful (run : RecoveryRun) (outcome : CycleOutcome) : Prop :=
  run.keys.pending = some true →
    (outcome.reconciliation = .clean → outcome.monitorClean = true) ∧
      (0 < run.keys.cleanStreak.value →
        outcome.reconciliation = .clean ∨ outcome.reconciliation = .transientError)

instance (run : RecoveryRun) (outcome : CycleOutcome) : Decidable (run.Careful outcome) := by
  unfold Careful
  infer_instance

/-- A pending recovery has counted the last cycle, or none. -/
def Counted (run : RecoveryRun) : Prop :=
  run.keys.pending = some true →
    run.keys.cleanStreak.value = 0 ∨ run.keys.cleanStreak.value = 1 ∧ run.lastClean = true

theorem armed_counted : armed.Counted := fun _ => .inl rfl

theorem keys_step_of_pending {run : RecoveryRun} (hpending : run.keys.pending = some true)
    (outcome : CycleOutcome) :
    (run.step outcome).keys =
      match outcome.reconciliation with
      | .transientError => armTransientRecovery
      | .otherError | .mismatches => run.keys
      | .clean =>
          if run.keys.cleanStreak.value + 1 < transientRecoveryRequiredCleanCycles then
            { run.keys with cleanStreak := .number (run.keys.cleanStreak.value + 1) }
          else { pending := some false, cleanStreak := .number 0 } := by
  simp only [step, RecoveryKeys.runOrderSafetyCycle, RecoveryKeys.advanceTransientRecovery,
    hpending, ne_eq, not_true_eq_false, if_false]
  cases outcome.reconciliation with
  | clean => simp only; split <;> rfl
  | mismatches => rfl
  | transientError => rfl
  | otherError => rfl

/-- A cycle reports a pending recovery over when it makes the count two. -/
theorem ready_iff_of_pending {run : RecoveryRun} (hpending : run.keys.pending = some true)
    (outcome : CycleOutcome) :
    (∃ streak, (run.keys.runOrderSafetyCycle outcome).2.recovery = some (true, streak)) ↔
      outcome.reconciliation = .clean ∧ 1 ≤ run.keys.cleanStreak.value := by
  simp only [RecoveryKeys.runOrderSafetyCycle, RecoveryKeys.advanceTransientRecovery, hpending,
    ne_eq, not_true_eq_false, if_false, transientRecoveryRequiredCleanCycles]
  cases outcome.reconciliation with
  | clean =>
      by_cases hless : run.keys.cleanStreak.value + 1 < 2
      · simp only [hless, if_true]
        simp
        omega
      · simp only [hless, if_false]
        simp
        omega
  | mismatches => simp
  | transientError => simp
  | otherError => simp

/-- A cycle that neither counts nor restarts leaves a count of zero. -/
theorem Counted.of_kept {run : RecoveryRun} {outcome : CycleOutcome} (hcounted : run.Counted)
    (hkept : (run.step outcome).keys = run.keys) (hzero : ¬0 < run.keys.cleanStreak.value) :
    (run.step outcome).Counted := by
  intro hpending
  rw [hkept] at hpending ⊢
  rcases hcounted hpending with hvalue | ⟨hone, -⟩
  · exact .inl hvalue
  · omega

theorem Counted.step {run : RecoveryRun} {outcome : CycleOutcome} (hcounted : run.Counted)
    (hcareful : run.Careful outcome) : (run.step outcome).Counted := by
  by_cases hpending : run.keys.pending = some true
  · have hkeys := keys_step_of_pending hpending outcome
    obtain ⟨hmonitor, hnext⟩ := hcareful hpending
    cases hreconciliation : outcome.reconciliation with
    | clean =>
        rw [hreconciliation] at hkeys
        simp only at hkeys
        intro hafter
        split at hkeys
        next hless =>
          refine .inr ⟨?_, ?_⟩
          · rw [hkeys]
            rcases hcounted hpending with hzero | ⟨hone, -⟩
            · exact congrArg (· + 1) hzero
            · simp [hone, transientRecoveryRequiredCleanCycles] at hless
          · show outcome.isClean = true
            rw [CycleOutcome.isClean, hmonitor hreconciliation, hreconciliation]
            rfl
        · rw [hkeys] at hafter
          simp at hafter
    | transientError =>
        intro _
        rw [hkeys, hreconciliation]
        exact .inl rfl
    | mismatches =>
        rw [hreconciliation] at hkeys hnext
        exact hcounted.of_kept hkeys fun hpositive => by simp [hpositive] at hnext
    | otherError =>
        rw [hreconciliation] at hkeys hnext
        exact hcounted.of_kept hkeys fun hpositive => by simp [hpositive] at hnext
  · -- only a new outage makes a recovery pending
    intro hafter
    cases hreconciliation : outcome.reconciliation <;>
      simp [RecoveryRun.step, RecoveryKeys.runOrderSafetyCycle, hreconciliation,
        RecoveryKeys.advanceTransientRecovery, hpending, armTransientRecovery,
        StreakText.value] at hafter ⊢

/-- What a careful cycle reports over is over. -/
theorem Counted.readyOnlyAfterTwoClean {run : RecoveryRun} {outcome : CycleOutcome}
    (hcounted : run.Counted) (hcareful : run.Careful outcome) :
    run.ReadyOnlyAfterTwoClean outcome := by
  intro hpending streak hready
  obtain ⟨hclean, hone⟩ := (ready_iff_of_pending hpending outcome).mp ⟨streak, hready⟩
  have hmonitor := (hcareful hpending).1 hclean
  refine ⟨by rw [CycleOutcome.isClean, hmonitor, hclean]; rfl, ?_⟩
  rcases hcounted hpending with hzero | ⟨-, hlast⟩
  · omega
  · exact hlast

end RecoveryRun

open RecoveryRun in
/-- In a run of careful cycles after an outage, the recovery is reported over only after two
clean cycles in a row. -/
theorem ready_after_two_clean_cycles {outcomes : List CycleOutcome}
    (hcareful : Run.Along step Careful armed outcomes) :
    Run.Along step ReadyOnlyAfterTwoClean armed outcomes :=
  hcareful.imp (fun _ _ => Counted.step) (fun _ _ => Counted.readyOnlyAfterTwoClean)
    armed_counted

open RecoveryRun in
theorem ready_after_two_clean_cycles_restarted :
    Run.Along step ReadyOnlyAfterTwoClean armed
      [{ reconciliation := .mismatches }, {}, { reconciliation := .transientError }, {}, {}] :=
  ready_after_two_clean_cycles (by decide)

open RecoveryRun in
/-- A mismatch between two clean cycles does not restart the count. -/
theorem ready_after_mismatch :
    ¬Run.Along step ReadyOnlyAfterTwoClean armed [{}, { reconciliation := .mismatches }, {}] := by
  rintro ⟨-, -, hready, -⟩
  exact absurd (hready rfl 2 rfl).2 (by decide)

open RecoveryRun in
/-- Careful cycles are the only ones that cannot lead to a recovery that is over too
early. -/
theorem not_two_clean_of_careless {outcomes : List CycleOutcome} {outcome : CycleOutcome}
    (hcareful : Run.Along step Careful armed outcomes)
    (hcareless : ¬(outcomes.foldl step armed).Careful outcome) :
    ∃ after, ¬Run.Along step ReadyOnlyAfterTwoClean armed (outcomes ++ outcome :: after) := by
  have hcounted : (outcomes.foldl step armed).Counted :=
    hcareful.invariant (fun _ _ => Counted.step) armed_counted
  generalize hrun : outcomes.foldl step armed = run at hcounted hcareless
  simp only [Run.along_append, Run.along_cons, hrun]
  -- one more clean cycle ends the recovery, with an unclean cycle before it
  have hnext : (run.step outcome).keys.pending = some true →
      1 ≤ (run.step outcome).keys.cleanStreak.value → outcome.isClean = false →
      ¬(run.step outcome).ReadyOnlyAfterTwoClean {} := by
    intro hpending hvalue hunclean htwo
    obtain ⟨streak, hready⟩ := (ready_iff_of_pending hpending {}).mpr ⟨rfl, hvalue⟩
    have hlast : outcome.isClean = true := (htwo hpending streak hready).2
    rw [hunclean] at hlast
    cases hlast
  simp only [Careful, not_forall, not_and_or] at hcareless
  obtain ⟨hpending, ⟨hclean, hfailed⟩ | ⟨hpositive, hother⟩⟩ := hcareless
  · -- The reconciliation was clean and the cycle failed: it counts as clean.
    have hunclean : outcome.isClean = false := by
      simp [CycleOutcome.isClean, Bool.eq_false_iff.mpr hfailed]
    rcases hcounted hpending with hzero | ⟨hone, -⟩
    · have hcounting : (run.step outcome).keys = { run.keys with cleanStreak := .number 1 } := by
        rw [keys_step_of_pending hpending, hclean]
        simp only [hzero]
        rfl
      refine ⟨[{}], ?_⟩
      rintro ⟨-, -, htwo, -⟩
      exact hnext (by rw [hcounting, hpending]) (by rw [hcounting]; exact le_rfl) hunclean htwo
    · refine ⟨[], ?_⟩
      rintro ⟨-, htwo, -⟩
      obtain ⟨streak, hready⟩ := (ready_iff_of_pending hpending outcome).mpr ⟨hclean, hone.ge⟩
      have := (htwo hpending streak hready).1
      rw [hunclean] at this
      cases this
  · -- The cycle was not clean and left the streak as it was.
    have hkept : (run.step outcome).keys = run.keys := by
      rw [keys_step_of_pending hpending]
      cases hreconciliation : outcome.reconciliation <;> simp_all
    have hunclean : outcome.isClean = false := by
      cases hreconciliation : outcome.reconciliation <;>
        simp_all [CycleOutcome.isClean]
    refine ⟨[{}], ?_⟩
    rintro ⟨-, -, htwo, -⟩
    exact hnext (by rw [hkept, hpending]) (by rw [hkept]; omega) hunclean htwo

end JdHoldings
