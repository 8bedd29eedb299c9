import Mathlib.Data.List.Induction
import JdHoldings.Capital.Contract
import JdHoldings.Library.Runs

/-!
# Opening the principal in stages

The effective principal rises in stages of 50, 75 and 100 percent of what is added.
`Ramp` keeps the six keys this is about, and `CapitalTurn.Effect` says once what one
turn of the running program does to them.

Two facts hold along every run.

* A running stage has opened its fraction of the way from the base to the target
  (`Ramp.Staged`), so the next stage can only raise the principal.
* A stored date belongs to the turn that first saw the running stage filled, and no
  turn since then has withdrawn it (`Observed`).

`effective_principal_opens_in_stages` reads both off at the turn that moves the
principal.
-/

namespace JdHoldings

variable {ι : Type}

/-! ## The keys of the ramp -/

/-- The keys of the staged opening. -/
structure Ramp where
  launched : Bool
  effective : Decimal
  stage : ℕ
  base : Decimal
  target : Decimal
  filledDate : Option Date
deriving DecidableEq, Repr

def Repository.ramp (repo : Repository ι) : Ramp where
  launched := repo.system.settings.launchAuthorized
  effective := repo.system.settings.effectivePrincipal
  stage := repo.system.settings.rampStage
  base := repo.system.settings.rampBasePrincipal
  target := repo.system.settings.rampTargetPrincipal
  filledDate := repo.system.rampStageFilledTradeDate

@[simp] theorem Repository.ramp_launched (repo : Repository ι) :
    repo.ramp.launched = repo.system.settings.launchAuthorized := rfl

@[simp] theorem Repository.ramp_effective (repo : Repository ι) :
    repo.ramp.effective = repo.system.settings.effectivePrincipal := rfl

@[simp] theorem Repository.ramp_stage (repo : Repository ι) :
    repo.ramp.stage = repo.system.settings.rampStage := rfl

@[simp] theorem Repository.ramp_filledDate (repo : Repository ι) :
    repo.ramp.filledDate = repo.system.rampStageFilledTradeDate := rfl

/-- The principal a stage opens, in whole cents. -/
def stagePrincipal (base target fraction : Decimal) : Decimal :=
  Quantize.down cent (base + (target - base) * fraction)

theorem stagePrincipal_onGrid (base target fraction : Decimal) :
    Quantize.OnGrid cent (stagePrincipal base target fraction) := Quantize.down_onGrid _ _

/-- A larger fraction opens no less. -/
theorem stagePrincipal_mono {base target fraction fraction' : Decimal} (hbase : 0 ≤ base)
    (hle : base ≤ target) (hnonneg : 0 ≤ fraction) (hfraction : fraction ≤ fraction') :
    stagePrincipal base target fraction ≤ stagePrincipal base target fraction' := by
  have hgap : 0 ≤ target - base := sub_nonneg.mpr hle
  have hopen : 0 ≤ base + (target - base) * fraction := by positivity
  refine Quantize.onGrid_le_down cent_pos (Quantize.down_onGrid _ _) ?_ ?_
  · exact Quantize.down_nonneg cent_pos hopen
  · calc Quantize.down cent (base + (target - base) * fraction)
        ≤ base + (target - base) * fraction := Quantize.down_le cent_pos hopen
      _ ≤ base + (target - base) * fraction' := by gcongr

theorem targetPrincipal_nonneg {base ratio : Option Decimal} (hbase : ∀ value ∈ base, 0 ≤ value)
    (hratio : ∀ value ∈ ratio, 0 ≤ value) : 0 ≤ targetPrincipal base ratio := by
  cases base with
  | none => exact le_refl 0
  | some base =>
      cases ratio with
      | none => exact le_refl 0
      | some ratio =>
          exact Quantize.down_nonneg cent_pos (mul_nonneg (hbase base rfl) (hratio ratio rfl))

/-- A flow moves the principal and no other key of the ramp. -/
theorem ramp_of_flow {config : StrategyConfig} {quotes : Quotes} {repo repo' : Repository ι}
    {requested : Decimal} {event : CapitalEvent}
    (hok : ProductionJHAutoService.applyExternalFlow config quotes repo requested event = .ok repo')
    (hgrid : Quantize.OnGrid cent requested) (hnonneg : 0 ≤ requested) :
    repo'.ramp = { repo.ramp with effective := requested } ∧
      repo'.system.targetPrincipal = repo.system.targetPrincipal := by
  have hnew : max 0 (Quantize.halfEven cent requested) = requested := by
    rw [Quantize.halfEven_of_onGrid cent_pos hgrid, max_eq_right hnonneg]
  have hbase : ∀ reset : Repository ι, reset.ramp = repo.ramp →
      reset.system.targetPrincipal = repo.system.targetPrincipal →
        JHAutoService.applyExternalFlow config quotes reset requested = .ok repo' →
          repo'.ramp = { repo.ramp with effective := requested } ∧
            repo'.system.targetPrincipal = repo.system.targetPrincipal := by
    intro reset hreset htarget hflow
    have hspec := JHAutoService.applyExternalFlow_ok hflow
    simp only [hnew] at hspec
    rw [← hreset, ← htarget]
    rcases hspec with ⟨hsame, rfl⟩ | ⟨-, preEquity, nav, -, rfl⟩
    · refine ⟨?_, rfl⟩
      rw [hsame]
      rfl
    · exact ⟨rfl, rfl⟩
  unfold ProductionJHAutoService.applyExternalFlow at hok
  split at hok
  · refine hbase _ ?_ ?_ hok
    · rfl
    · rfl
  · exact hbase _ rfl rfl hok

/-! ## What the operator does to the ramp -/

/-- What a change of the target does: nothing before the launch, a reduction at once, and
a new ramp for what is added. -/
inductive Ramp.Retarget (before : Ramp) (oldTarget newTarget : Decimal) : Ramp → Prop
  | kept : Retarget before oldTarget newTarget before
  | reduced (launched : before.launched = true) (below : newTarget < before.effective) :
      Retarget before oldTarget newTarget
        { before with effective := newTarget, stage := 0, base := newTarget, target := newTarget }
  | canceled (launched : before.launched = true) (fits : before.effective ≤ newTarget)
      (below : newTarget < oldTarget) :
      Retarget before oldTarget newTarget
        { before with stage := 0, base := before.effective, target := newTarget }
  | increased (launched : before.launched = true) (idle : before.stage = 0)
      (above : oldTarget < newTarget) :
      Retarget before oldTarget newTarget { before with
        effective := stagePrincipal before.effective newTarget (1 / 2)
        stage := 1
        base := before.effective
        target := newTarget
        filledDate := none }

private theorem retargetLivePrincipal_ramp {config : StrategyConfig} {env : AutoEnvironment ι}
    {repo repo' : Repository ι} {before : AutoSettings} {newTarget : Decimal}
    (hok : JHAutoService.retargetLivePrincipal config env repo before newTarget = .ok repo')
    (hlaunched : repo.ramp.launched = true)
    (heffective : before.effectivePrincipal = repo.ramp.effective)
    (hidle : before.targetPrincipal < newTarget → repo.ramp.stage = 0)
    (hgrid : Quantize.OnGrid cent newTarget) (hnonneg : 0 ≤ newTarget)
    (hopen : 0 ≤ before.effectivePrincipal) :
    repo.ramp.Retarget before.targetPrincipal newTarget repo'.ramp ∧
      repo'.system.targetPrincipal = repo.system.targetPrincipal := by
  unfold JHAutoService.retargetLivePrincipal at hok
  split at hok
  · obtain rfl := Except.ok.inj hok
    exact ⟨.kept, rfl⟩
  · rename_i hchanged
    split at hok
    · rename_i hbelow
      obtain ⟨hramp, htarget⟩ := ramp_of_flow hok hgrid hnonneg
      refine ⟨?_, htarget⟩
      rw [hramp]
      exact .reduced hlaunched (heffective ▸ hbelow)
    · rename_i hfits
      split at hok
      · rename_i hbelow
        obtain rfl := Except.ok.inj hok
        refine ⟨?_, rfl⟩
        rw [heffective] at hfits ⊢
        exact .canceled hlaunched (not_lt.mp hfits) hbelow
      · rename_i hnotbelow
        have habove : before.targetPrincipal < newTarget :=
          lt_of_le_of_ne (not_lt.mp hnotbelow) (Ne.symm hchanged)
        have hgap : 0 ≤ newTarget - before.effectivePrincipal := sub_nonneg.mpr (not_lt.mp hfits)
        have hfirst : 0 ≤ stagePrincipal before.effectivePrincipal newTarget (1 / 2) :=
          Quantize.down_nonneg cent_pos (by positivity)
        obtain ⟨hramp, htarget⟩ := ramp_of_flow hok (stagePrincipal_onGrid _ _ _) hfirst
        refine ⟨?_, htarget⟩
        rw [hramp, heffective]
        exact .increased hlaunched (hidle habove) habove

/-- What a configuration change by the operator does to the ramp. -/
private theorem JHAutoService.setOperatorConfig_ramp {config : StrategyConfig}
    {env : AutoEnvironment ι} {repo repo' : Repository ι} {base ratio : Option Decimal}
    (hok : JHAutoService.setOperatorConfig config env repo base ratio = .ok repo')
    (hcontract : repo.system.capital.Contract) (hbase : ∀ value ∈ base, 0 ≤ value)
    (hratio : ∀ value ∈ ratio, 0 ≤ value) :
    repo.ramp.Retarget repo.system.settings.targetPrincipal repo'.system.settings.targetPrincipal
      repo'.ramp := by
  simp only [JHAutoService.setOperatorConfig, Except.bind_eq_ok, raiseIf_eq_ok] at hok
  obtain ⟨_, -, _, hbusy, hok⟩ := hok
  set newBase := base <|> repo.system.settings.baseCapital with hnewBase
  set newRatio := ratio <|> repo.system.settings.ratio with hnewRatio
  split at hok
  · rename_i hauthorized
    have hlaunch : repo.system.launchAuthorized = some true := of_decide_eq_true hauthorized
    have hnonneg : 0 ≤ targetPrincipal newBase newRatio := by
      refine targetPrincipal_nonneg (mem_orElse hbase fun value hvalue => ?_)
        (mem_orElse hratio fun value hvalue => ?_)
      · exact le_trans (by norm_num [minBaseCapital]) (hcontract.base value hvalue).1
      · exact le_trans (by norm_num [minRatio]) (hcontract.ratio value hvalue).1
    obtain ⟨effective, target, -, hopened, -⟩ := hcontract.opened hlaunch
    have heffective : repo.system.effectivePrincipal = some effective := hopened.effectivePrincipal
    have hopen : 0 ≤ repo.system.settings.effectivePrincipal := by
      simpa [SystemState.settings, heffective] using hopened.pos.le
    obtain ⟨hretarget, htarget⟩ := retargetLivePrincipal_ramp hok hauthorized rfl
      (fun habove => by_contra fun hstage => hbusy ⟨hauthorized, habove, hstage⟩)
      (targetPrincipal_onGrid _ _) hnonneg hopen
    have hnewTarget : repo'.system.settings.targetPrincipal = targetPrincipal newBase newRatio := by
      simp [SystemState.settings, htarget]
    rw [hnewTarget]
    exact hretarget
  · obtain rfl := Except.ok.inj hok
    exact .kept

theorem setOperatorConfig_ramp {config : StrategyConfig} {env : AutoEnvironment ι}
    {repo repo' : Repository ι} {base ratio : Option Decimal}
    (hok : FinalOpsProductionJHAutoService.setOperatorConfig config env repo base ratio = .ok repo')
    (hcontract : repo.system.capital.Contract) (hbase : ∀ value ∈ base, 0 ≤ value)
    (hratio : ∀ value ∈ ratio, 0 ≤ value) :
    repo.ramp.Retarget repo.system.settings.targetPrincipal repo'.system.settings.targetPrincipal
      repo'.ramp := by
  simp only [FinalOpsProductionJHAutoService.setOperatorConfig, Except.bind_eq_ok] at hok
  obtain ⟨hardened, hhardened, hresult⟩ := hok
  have hretarget : repo.ramp.Retarget repo.system.settings.targetPrincipal
      hardened.system.settings.targetPrincipal hardened.ramp := by
    unfold HardenedProductionJHAutoService.setOperatorConfig at hhardened
    split at hhardened
    · simp only [Except.bind_eq_ok] at hhardened
      obtain ⟨updated, hupdated, _, -, hclosed⟩ := hhardened
      obtain rfl := Except.ok.inj hclosed
      have hramp := JHAutoService.setOperatorConfig_ramp hupdated hcontract hbase hratio
      exact hramp
    · simp only [Except.bind_eq_ok] at hhardened
      obtain ⟨updated, hupdated, _, -, hclosed⟩ := hhardened
      obtain rfl := Except.ok.inj hclosed
      exact JHAutoService.setOperatorConfig_ramp hupdated hcontract hbase hratio
  split at hresult
  · obtain rfl := Except.ok.inj hresult
    exact hretarget
  · obtain rfl := Except.ok.inj hresult
    exact hretarget

/-- A first launch opens half of the target. -/
theorem authorizeLaunch_ramp {config : StrategyConfig} {env : AutoEnvironment ι}
    {repo repo' : Repository ι}
    (hok : FinalOpsProductionJHAutoService.authorizeLaunch config env repo = .ok repo')
    (hcontract : repo.system.capital.Contract) :
    repo'.ramp = repo.ramp ∨ repo.ramp.launched = false ∧ repo'.ramp = {
      launched := true
      effective := stagePrincipal 0 repo.system.settings.targetPrincipal (1 / 2)
      stage := 1
      base := 0
      target := repo.system.settings.targetPrincipal
      filledDate := none } := by
  simp only [FinalOpsProductionJHAutoService.authorizeLaunch, JHAutoService.authorizeLaunch,
    Except.bind_eq_ok] at hok
  obtain ⟨opened, ⟨checked, hpreflight, hlaunch⟩, hresult⟩ := hok
  -- The log written after the launch is no part of the ramp.
  have hopened : repo'.ramp = opened.ramp := by
    split at hresult
    · obtain rfl := Except.ok.inj hresult
      rfl
    · obtain rfl := Except.ok.inj hresult
      rfl
  rw [hopened]
  by_cases hauthorized : repo.system.launchAuthorized = some true
  · -- A repeated launch changes nothing.
    left
    have hsettings : repo.system.settings.launchAuthorized = true := decide_eq_true hauthorized
    simp only [JHAutoService.preflightLaunch, hsettings, if_true, Except.bind_eq_ok] at hpreflight
    obtain ⟨_, -, hsame⟩ := hpreflight
    obtain rfl := Except.ok.inj hsame
    simp only [hsettings, if_true, Except.bind_eq_ok] at hlaunch
    obtain ⟨_, -, hsame⟩ := hlaunch
    obtain rfl := Except.ok.inj hsame
    rfl
  · right
    obtain ⟨hcapital, -⟩ := JHAutoService.preflightLaunch_ok hpreflight
    have hnew : repo.system.settings.launchAuthorized = false := decide_eq_false hauthorized
    have hchecked : checked.system.settings.launchAuthorized = false := by
      have hkey : checked.system.launchAuthorized = repo.system.launchAuthorized :=
        congrArg CapitalKeys.launchAuthorized hcapital
      simp [SystemState.settings, hkey, hauthorized]
    have htarget : checked.system.settings.targetPrincipal
        = repo.system.settings.targetPrincipal := by
      have hkey : checked.system.targetPrincipal = repo.system.targetPrincipal :=
        congrArg CapitalKeys.targetPrincipal hcapital
      simp [SystemState.settings, hkey]
    have hnonneg : 0 ≤ repo.system.settings.targetPrincipal := by
      have hkey : repo.system.targetPrincipal = some _ := hcontract.target
      rw [SystemState.settings, hkey]
      refine targetPrincipal_nonneg (fun value hvalue => ?_) (fun value hvalue => ?_)
      · exact le_trans (by norm_num [minBaseCapital]) (hcontract.base value hvalue).1
      · exact le_trans (by norm_num [minRatio]) (hcontract.ratio value hvalue).1
    refine ⟨hnew, ?_⟩
    rw [hchecked] at hlaunch
    simp only [Bool.false_eq_true, if_false, Except.bind_eq_ok] at hlaunch
    obtain ⟨fraction, hfraction, hflow⟩ := hlaunch
    obtain rfl : (1 / 2 : Decimal) = fraction := Except.ok.inj hfraction
    -- The first stage is one half of the target.
    have hhalf : Quantize.down cent (checked.system.settings.targetPrincipal * (1 / 2))
        = stagePrincipal 0 repo.system.settings.targetPrincipal (1 / 2) := by
      rw [stagePrincipal, htarget, zero_add, sub_zero]
    rw [hhalf] at hflow
    obtain ⟨hramp, -⟩ := ramp_of_flow hflow (stagePrincipal_onGrid _ _ _)
      (Quantize.down_nonneg cent_pos (by rw [zero_add, sub_zero]; positivity))
    rw [hramp, ← htarget]
    rfl

/-! ## Turns -/

/-- A change of the total or of the ratio by the operator. -/
def CapitalOp.isOperatorChange : CapitalOp → Bool
  | .setBaseCapital _ | .setRatioPercent _ => true
  | _ => false

/-- The exchange calendar. -/
structure MarketCalendar where
  isSession : Date → Bool

/-- `completed_sessions_since`, when `latest` is the latest completed session. -/
def MarketCalendar.completedSessionsSince (calendar : MarketCalendar) (latest start : Date) : ℕ :=
  if latest ≤ start then 0
  else ((List.range (latest + 1)).filter fun date =>
    decide (start < date) && calendar.isSession date).length

/-- The sessions are counted on the calendar. -/
def AutoEnvironment.onCalendar (env : AutoEnvironment ι) (calendar : MarketCalendar) :
    AutoEnvironment ι :=
  { env with completedSessionsSince := calendar.completedSessionsSince env.latestCompletedDate }

/-- One turn of the running program: a capital transaction, a restart, or any other
write, which leaves the capital keys and the date of the stage alone. -/
inductive CapitalTurn (ι : Type) where
  | transaction (env : AutoEnvironment ι) (op : CapitalOp)
  | restart
  | elsewhere (repo' : Repository ι)

/-- A transaction that raises is rolled back. -/
def CapitalTurn.step (config : StrategyConfig) (calendar : MarketCalendar) (repo : Repository ι) :
    CapitalTurn ι → Repository ι
  | .transaction env op =>
      match op.exec config (env.onCalendar calendar) repo with
      | .ok repo' => repo'
      | .error _ => repo
  | .restart => repo.setSystem repo.system.bootstrap
  | .elsewhere repo' =>
      if repo'.system.capital = repo.system.capital ∧
          repo'.system.rampStageFilledTradeDate = repo.system.rampStageFilledTradeDate then repo'
      else repo

/-- What one turn does to the ramp. -/
inductive CapitalTurn.Effect (calendar : MarketCalendar) (repo repo' : Repository ι) :
    CapitalTurn ι → Prop
  | kept {turn : CapitalTurn ι} (same : repo'.ramp = repo.ramp) : Effect calendar repo repo' turn
  | operator {env : AutoEnvironment ι} {op : CapitalOp} (change : op.isOperatorChange = true)
      (retarget : repo.ramp.Retarget repo.system.settings.targetPrincipal
        repo'.system.settings.targetPrincipal repo'.ramp) : Effect calendar repo repo' (.transaction env op)
  | launched {env : AutoEnvironment ι} (new : repo.ramp.launched = false)
      (ramp_eq : repo'.ramp = {
        launched := true
        effective := stagePrincipal 0 repo.system.settings.targetPrincipal (1 / 2)
        stage := 1
        base := 0
        target := repo.system.settings.targetPrincipal
        filledDate := none }) : Effect calendar repo repo' (.transaction env .authorizeLaunch)
  | withdrawn {env : AutoEnvironment ι} (gates : repo.RampOpen)
      (unfilled : repo.stageFilled env = false)
      (ramp_eq : repo'.ramp = { repo.ramp with filledDate := none }) :
      Effect calendar repo repo' (.transaction env .advanceRampIfReady)
  | observed {env : AutoEnvironment ι} (gates : repo.RampOpen)
      (filled : repo.stageFilled env = true)
      (ramp_eq : repo'.ramp = { repo.ramp with filledDate := some (repo.filledDate env) }) :
      Effect calendar repo repo' (.transaction env .advanceRampIfReady)
  | finished {env : AutoEnvironment ι} (gates : repo.RampOpen)
      (filled : repo.stageFilled env = true) (last : repo.ramp.stage = 3)
      (ramp_eq : repo'.ramp = { repo.ramp with stage := 0, filledDate := none }) :
      Effect calendar repo repo' (.transaction env .advanceRampIfReady)
  | advanced {env : AutoEnvironment ι} {fraction : Decimal} (gates : repo.RampOpen)
      (filled : repo.stageFilled env = true)
      (sessions : minimumStageSessions ≤
        calendar.completedSessionsSince env.latestCompletedDate (repo.filledDate env))
      (fraction_eq : rampFraction (repo.ramp.stage + 1) = .ok fraction)
      (ramp_eq : repo'.ramp = { repo.ramp with
        effective := stagePrincipal repo.ramp.base repo.ramp.target fraction
        stage := repo.ramp.stage + 1
        filledDate := none }) : Effect calendar repo repo' (.transaction env .advanceRampIfReady)

/-- The running ramp opens a part of what is added. -/
theorem Repository.ramp_bounds {repo : Repository ι} (hcontract : repo.system.capital.Contract)
    (hlaunched : repo.ramp.launched = true) (hstage : repo.ramp.stage ≠ 0) :
    0 ≤ repo.ramp.base ∧ repo.ramp.base ≤ repo.ramp.target ∧
      repo.ramp.target = repo.system.settings.targetPrincipal := by
  obtain ⟨effective, target, htarget, -, hramp⟩ := hcontract.opened (of_decide_eq_true hlaunched)
  obtain ⟨haims, rampBase, hbase, hnonneg, hle⟩ := hramp hstage
  have hrampBase : repo.system.rampBasePrincipal = some rampBase := hbase
  have hrampTarget : repo.system.rampTargetPrincipal = some target := haims
  have htarget' : repo.system.targetPrincipal = some target := htarget
  refine ⟨?_, ?_, ?_⟩ <;>
    simp [Repository.ramp, SystemState.settings, hrampBase, hrampTarget, htarget', hnonneg, hle]

private theorem advanceRampIfReady_turn {config : StrategyConfig} {calendar : MarketCalendar}
    {env : AutoEnvironment ι} {repo : Repository ι} {result : Repository ι × Bool}
    (hok : FinalOpsProductionJHAutoService.advanceRampIfReady config (env.onCalendar calendar) repo
      = .ok result) (hcontract : repo.system.capital.Contract) :
    CapitalTurn.Effect calendar repo result.1 (.transaction env .advanceRampIfReady) := by
  simp only [FinalOpsProductionJHAutoService.advanceRampIfReady, Except.bind_eq_ok] at hok
  obtain ⟨advanced, hadvanced, hresult⟩ := hok
  have hsame : result.1.ramp = advanced.1.ramp := by
    split at hresult
    · obtain rfl := Except.ok.inj hresult
      rfl
    · obtain rfl := Except.ok.inj hresult
      rfl
  cases JHAutoService.advanceRampIfReady_effect hadvanced with
  | idle => exact .kept hsame
  | withdrawn gates unfilled => exact .withdrawn gates unfilled hsame
  | observed gates filled => exact .observed gates filled hsame
  | finished gates filled last => exact .finished gates filled last hsame
  | advanced gates filled sessions fraction_eq flow =>
      have hlaunched : repo.ramp.launched = true := decide_eq_true gates.launchAuthorized
      obtain ⟨hbase, hle, -⟩ := repo.ramp_bounds hcontract hlaunched gates.stage
      have hgap : 0 ≤ repo.ramp.target - repo.ramp.base := sub_nonneg.mpr hle
      obtain ⟨hhalf, -⟩ := rampFraction_ok fraction_eq
      have hfraction := le_trans (by norm_num : (0 : Decimal) ≤ 1 / 2) hhalf
      obtain ⟨hramp, -⟩ := ramp_of_flow flow (Quantize.down_onGrid _ _)
        (Quantize.down_nonneg cent_pos (add_nonneg hbase (mul_nonneg hgap hfraction)))
      exact .advanced gates filled sessions fraction_eq (hsame.trans hramp)

/-- The ramp is a part of the capital keys, and the date. -/
theorem Repository.ramp_congr {repo repo' : Repository ι}
    (hcapital : repo'.system.capital = repo.system.capital)
    (hdate : repo'.system.rampStageFilledTradeDate = repo.system.rampStageFilledTradeDate) :
    repo'.ramp = repo.ramp := by
  simp only [SystemState.capital, CapitalKeys.mk.injEq] at hcapital
  obtain ⟨-, -, -, -, -, heffective, hlaunch, hstage, hbase, htarget, -, -⟩ := hcapital
  simp only [ramp, SystemState.settings, heffective, hlaunch, hstage, hbase, htarget, hdate]

/-- A start fills in missing keys with what they are read as. -/
theorem Repository.ramp_bootstrap (repo : Repository ι) :
    (repo.setSystem repo.system.bootstrap).ramp = repo.ramp := by
  have hdefault : ∀ (key : Option Decimal), (key <|> some 0).getD 0 = key.getD 0 := by
    intro key
    cases key <;> rfl
  have hstage : (repo.system.rampStage <|> some 0).getD 0 = repo.system.rampStage.getD 0 := by
    cases repo.system.rampStage <;> rfl
  have hlaunch : ((repo.system.launchAuthorized <|> some false) = some true)
      ↔ repo.system.launchAuthorized = some true := by
    cases repo.system.launchAuthorized <;> simp
  simp only [ramp, SystemState.settings, SystemState.bootstrap, setSystem_system, hdefault, hstage,
    hlaunch]

/-- What a turn does to the ramp of an account that meets the contract. -/
theorem CapitalTurn.step_effect (config : StrategyConfig) (calendar : MarketCalendar)
    {repo : Repository ι} (hcontract : repo.system.capital.Contract) (turn : CapitalTurn ι) :
    turn.Effect calendar repo (turn.step config calendar repo) := by
  cases turn with
  | restart => exact .kept repo.ramp_bootstrap
  | elsewhere repo' =>
      simp only [step]
      split
      · rename_i hsame
        exact .kept (Repository.ramp_congr hsame.1 hsame.2)
      · exact .kept rfl
  | transaction env op =>
      simp only [step]
      cases hexec : op.exec config (env.onCalendar calendar) repo with
      | error error => exact .kept rfl
      | ok repo' =>
          have hnone : ∀ value ∈ (none : Option Decimal), 0 ≤ value := by
            intro value hvalue
            cases hvalue
          cases op with
          | setBaseCapital value =>
              -- Both settings go through `set_operator_config`, with a normalized amount.
              simp only [CapitalOp.exec, setBaseCapital, Except.bind_eq_ok] at hexec
              obtain ⟨base, hnormalized, hok⟩ := hexec
              refine .operator rfl (setOperatorConfig_ramp hok hcontract ?_ hnone)
              intro given hgiven
              obtain rfl := Option.some.inj hgiven
              exact le_trans (by norm_num [minBaseCapital]) (normalizeMoney_ok hnormalized).1
          | setRatioPercent percent =>
              simp only [CapitalOp.exec, setRatioPercent, Except.bind_eq_ok] at hexec
              obtain ⟨ratio, hnormalized, hok⟩ := hexec
              refine .operator rfl (setOperatorConfig_ramp hok hcontract hnone ?_)
              intro given hgiven
              obtain rfl := Option.some.inj hgiven
              exact le_trans (by norm_num [minRatio]) (normalizeRatioPercent_ok hnormalized).1
          | authorizeLaunch =>
              rcases authorizeLaunch_ramp hexec hcontract with hsame | ⟨hnew, hramp⟩
              · exact .kept hsame
              · exact .launched hnew hramp
          | advanceRampIfReady =>
              obtain ⟨result, hadvance, rfl⟩ := CapitalOp.exec_advanceRamp hexec
              exact advanceRampIfReady_turn hadvance hcontract
          | recordV322Equity markedEquity =>
              -- An observation writes high water and risk budget only.
              simp only [CapitalOp.exec, Repository.recordV322Equity, Except.bind_eq_ok] at hexec
              obtain ⟨system, hrecord, hresult⟩ := hexec
              obtain rfl := Except.ok.inj hresult
              unfold SystemState.recordV322Equity at hrecord
              split at hrecord
              · cases hrecord
              · split at hrecord
                · cases hrecord
                · obtain rfl := Except.ok.inj hrecord
                  exact .kept rfl

/-! ## Runs -/

/-- The program after its first start on the database `start` and the given turns. -/
def capitalRun (config : StrategyConfig) (calendar : MarketCalendar) (start : Repository ι)
    (turns : List (CapitalTurn ι)) : Repository ι :=
  turns.foldl (CapitalTurn.step config calendar) (start.setSystem start.system.bootstrap)

theorem capitalRun_append (config : StrategyConfig) (calendar : MarketCalendar)
    (start : Repository ι) (turns : List (CapitalTurn ι)) (turn : CapitalTurn ι) :
    capitalRun config calendar start (turns ++ [turn])
      = turn.step config calendar (capitalRun config calendar start turns) := by
  simp [capitalRun]

/-- A running stage has opened its fraction of what is added. -/
def Ramp.Staged (ramp : Ramp) : Prop :=
  ramp.launched = true → ramp.stage ≠ 0 → ∃ fraction, rampFraction ramp.stage = .ok fraction ∧
    ramp.effective = stagePrincipal ramp.base ramp.target fraction

/-- A look at the ramp finds the stage filled, and no such observation stands. -/
structure Repository.FirstFilled (repo : Repository ι) (env : AutoEnvironment ι) : Prop where
  gates : repo.RampOpen
  filled : repo.stageFilled env = true
  fresh : repo.ramp.filledDate = none

/-- A look at the ramp finds the stage no longer filled. -/
def CapitalTurn.Withdraws (repo : Repository ι) (turn : CapitalTurn ι) : Prop :=
  ∃ env, turn = .transaction env .advanceRampIfReady ∧ repo.RampOpen ∧ repo.stageFilled env = false

/-- Among the turns, one has first seen the running stage filled, on the given date, and
since then no turn has withdrawn that or moved the ramp. -/
def Observed (config : StrategyConfig) (calendar : MarketCalendar) (start : Repository ι)
    (turns : List (CapitalTurn ι)) (date : Date) : Prop :=
  ∃ front env since, turns = front ++ .transaction env .advanceRampIfReady :: since ∧
    (capitalRun config calendar start front).FirstFilled env ∧ env.latestCompletedDate = date ∧
    Run.Along (CapitalTurn.step config calendar)
      (fun repo turn => ¬turn.Withdraws repo ∧ (turn.step config calendar repo).ramp = repo.ramp)
      (capitalRun config calendar start (front ++ [.transaction env .advanceRampIfReady])) since

section Runs

variable {config : StrategyConfig} {calendar : MarketCalendar} {start : Repository ι}
  {turns : List (CapitalTurn ι)} {turn : CapitalTurn ι} {repo repo' : Repository ι}

theorem CapitalTurn.step_reachable (hreached : CapitalReachable config repo)
    (turn : CapitalTurn ι) : CapitalReachable config (turn.step config calendar repo) := by
  cases turn with
  | restart => exact .restart hreached
  | elsewhere repo' =>
      simp only [step]
      split
      · rename_i hsame
        exact .elsewhere hreached hsame.1
      · exact hreached
  | transaction env op =>
      simp only [step]
      split
      · rename_i repo' hexec
        exact .operation hreached (env.onCalendar calendar) op hexec
      · exact hreached

theorem capitalRun_reachable (hbefore : start.system.BeforeAuto) :
    CapitalReachable config (capitalRun config calendar start turns) := by
  induction turns using List.reverseRecOn with
  | nil => exact .bootstrap hbefore
  | append_singleton turns turn ih =>
      rw [capitalRun_append]
      exact CapitalTurn.step_reachable ih turn

/-- The effect of a turn in a run. -/
theorem capitalRun_effect (hbefore : start.system.BeforeAuto) :
    turn.Effect calendar (capitalRun config calendar start turns)
      (turn.step config calendar (capitalRun config calendar start turns)) :=
  turn.step_effect config calendar (capitalRun_reachable hbefore).contract

theorem CapitalTurn.Effect.staged (heffect : turn.Effect calendar repo repo')
    (hstaged : repo.ramp.Staged) : repo'.ramp.Staged := by
  cases heffect with
  | kept same => rw [same]; exact hstaged
  | operator _ retarget =>
      generalize repo'.ramp = after at retarget
      cases retarget with
      | kept => exact hstaged
      | reduced => exact fun _ hstage => absurd rfl hstage
      | canceled => exact fun _ hstage => absurd rfl hstage
      | increased => exact fun _ _ => ⟨1 / 2, rfl, rfl⟩
  | launched _ ramp_eq => rw [ramp_eq]; exact fun _ _ => ⟨1 / 2, rfl, rfl⟩
  | withdrawn _ _ ramp_eq => rw [ramp_eq]; exact hstaged
  | observed _ _ ramp_eq => rw [ramp_eq]; exact hstaged
  | finished _ _ _ ramp_eq => rw [ramp_eq]; exact fun _ hstage => absurd rfl hstage
  | @advanced env fraction _ _ _ fraction_eq ramp_eq =>
      rw [ramp_eq]
      exact fun _ _ => ⟨fraction, fraction_eq, rfl⟩

/-- The first start launches nothing. -/
theorem capitalRun_nil_launched (hbefore : start.system.BeforeAuto) :
    (capitalRun config calendar start []).ramp.launched = false := by
  rw [capitalRun, List.foldl_nil, Repository.ramp_bootstrap]
  simp [SystemState.settings, hbefore.launchAuthorized]

theorem capitalRun_staged (hbefore : start.system.BeforeAuto) :
    (capitalRun config calendar start turns).ramp.Staged := by
  induction turns using List.reverseRecOn with
  | nil =>
      intro hlaunched
      rw [capitalRun_nil_launched hbefore] at hlaunched
      cases hlaunched
  | append_singleton turns turn ih =>
      rw [capitalRun_append]
      exact (capitalRun_effect hbefore).staged ih

/-- A look that finds the stage unfilled takes the date away. -/
theorem CapitalTurn.Withdraws.step (hwithdraws : turn.Withdraws repo) :
    (turn.step config calendar repo).ramp.filledDate = none := by
  obtain ⟨env, rfl, hgates, hunfilled⟩ := hwithdraws
  have hbase : JHAutoService.advanceRampIfReady config (env.onCalendar calendar) repo
      = .ok (repo.setSystem { repo.system with rampStageFilledTradeDate := none }, false) := by
    simp only [JHAutoService.advanceRampIfReady]
    rw [if_neg, if_neg, if_neg, if_pos]
    · rfl
    · exact hunfilled
    · rintro (hsafe | hopen)
      · rw [hgates.safeMode] at hsafe
        cases hsafe
      · exact hopen hgates.openOrders
    · simp [SystemState.settings, hgates.latch, hgates.quarantine, hgates.autoState,
        hgates.operatorBuyHalt]
    · rintro (hlaunch | hstage)
      · simp [SystemState.settings, hgates.launchAuthorized] at hlaunch
      · exact hgates.stage hstage
  have hexec : CapitalOp.exec config (env.onCalendar calendar) repo .advanceRampIfReady
      = .ok (repo.setSystem { repo.system with rampStageFilledTradeDate := none }) := by
    simp only [CapitalOp.exec, FinalOpsProductionJHAutoService.advanceRampIfReady, hbase]
    rfl
  simp only [CapitalTurn.step, hexec]
  rfl

/-- While a stage runs, a turn leaves a date only if it keeps the whole ramp, or has just
seen the stage filled for the first time. -/
theorem CapitalTurn.step_date (hcontract : repo.system.capital.Contract) {date : Date}
    (hstage : (turn.step config calendar repo).ramp.stage ≠ 0)
    (hdate : (turn.step config calendar repo).ramp.filledDate = some date) :
    (turn.step config calendar repo).ramp = repo.ramp ∨
      ∃ env, turn = .transaction env .advanceRampIfReady ∧ repo.FirstFilled env ∧
        env.latestCompletedDate = date := by
  have heffect := turn.step_effect config calendar hcontract
  generalize turn.step config calendar repo = repo' at heffect hstage hdate ⊢
  cases heffect with
  | kept same => exact Or.inl same
  | operator _ retarget =>
      generalize repo'.ramp = after at retarget hstage hdate
      cases retarget with
      | kept => exact Or.inl rfl
      | reduced => exact absurd rfl hstage
      | canceled => exact absurd rfl hstage
      | increased => cases hdate
  | launched _ ramp_eq =>
      rw [ramp_eq] at hdate
      cases hdate
  | withdrawn _ _ ramp_eq =>
      rw [ramp_eq] at hdate
      cases hdate
  | @observed env gates filled ramp_eq =>
      -- The date noted is the stored one, or that of this observation.
      rw [ramp_eq] at hdate
      have hstored : repo.ramp.filledDate.getD env.latestCompletedDate = date :=
        Option.some.inj hdate
      cases hfresh : repo.ramp.filledDate with
      | none =>
          rw [hfresh] at hstored
          exact Or.inr ⟨env, rfl, ⟨gates, filled, hfresh⟩, hstored⟩
      | some stored =>
          rw [hfresh] at hstored
          left
          have hkept : repo.filledDate env = stored := by
            rw [Repository.filledDate, ← Repository.ramp_filledDate, hfresh, Option.getD_some]
          rw [ramp_eq, hkept, ← hfresh]
  | finished _ _ _ ramp_eq =>
      rw [ramp_eq] at hdate
      cases hdate
  | advanced _ _ _ _ ramp_eq =>
      rw [ramp_eq] at hdate
      cases hdate

/-- The date of a running stage is an observation that stands. -/
theorem capitalRun_observed (hbefore : start.system.BeforeAuto) {date : Date}
    (hlaunched : (capitalRun config calendar start turns).ramp.launched = true)
    (hstage : (capitalRun config calendar start turns).ramp.stage ≠ 0)
    (hdate : (capitalRun config calendar start turns).ramp.filledDate = some date) :
    Observed config calendar start turns date := by
  induction turns using List.reverseRecOn with
  | nil =>
      rw [capitalRun_nil_launched hbefore] at hlaunched
      cases hlaunched
  | append_singleton turns turn ih =>
      have hreached : CapitalReachable config (capitalRun config calendar start turns) :=
        capitalRun_reachable hbefore
      rw [capitalRun_append] at hlaunched hstage hdate
      rcases CapitalTurn.step_date hreached.contract hstage hdate with
        hsame | ⟨env, rfl, hfirst, hlatest⟩
      · -- The observation made before still stands.
        have hkept : ¬turn.Withdraws (capitalRun config calendar start turns) := by
          intro hwithdraws
          rw [hwithdraws.step] at hdate
          cases hdate
        rw [hsame] at hlaunched hstage hdate
        obtain ⟨front, env, since, rfl, hfirst, hlatest, hstands⟩ := ih hlaunched hstage hdate
        refine ⟨front, env, since ++ [turn], by simp, hfirst, hlatest, ?_⟩
        refine (Run.along_append _ _ _ _).mpr ⟨hstands, ?_, trivial⟩
        have hreach : since.foldl (CapitalTurn.step config calendar)
            (capitalRun config calendar start (front ++ [.transaction env .advanceRampIfReady]))
              = capitalRun config calendar start
                  (front ++ .transaction env .advanceRampIfReady :: since) := by
          simp only [capitalRun, List.foldl_append, List.foldl_cons, List.foldl_nil]
        rw [hreach]
        exact ⟨hkept, hsame⟩
      · exact ⟨turns, env, [], rfl, hfirst, hlatest, trivial⟩

/-! ## The law of the staged opening -/

/-- What a look at the ramp has made sure of when it opens the next stage. -/
structure StageStep (config : StrategyConfig) (calendar : MarketCalendar) (start : Repository ι)
    (turns : List (CapitalTurn ι)) (repo repo' : Repository ι) (env : AutoEnvironment ι) : Prop where
  opened : ∃ fraction, rampFraction (repo.ramp.stage + 1) = .ok fraction ∧
    repo'.ramp.effective = Quantize.down cent
      (repo.ramp.base + (repo.ramp.target - repo.ramp.base) * fraction)
  target : repo.ramp.target = repo.system.settings.targetPrincipal
  stage : repo'.ramp.stage = repo.ramp.stage + 1
  raised : repo.ramp.effective ≤ repo'.ramp.effective
  gates : repo.RampOpen
  held : repo.system.targetQtyGeneration.isSome = true ∧
    ∀ symbol, (repo.core symbol).targetQty ≤ (repo.core symbol).qty
  sessions : ∃ date, Observed config calendar start turns date ∧
    minimumStageSessions ≤ calendar.completedSessionsSince env.latestCompletedDate date

/-- How a turn may raise the principal. -/
inductive Raises (config : StrategyConfig) (calendar : MarketCalendar) (start : Repository ι)
    (turns : List (CapitalTurn ι)) (repo repo' : Repository ι) : CapitalTurn ι → Prop
  | launch {env : AutoEnvironment ι} (new : repo.system.launchAuthorized ≠ some true)
      (half : repo'.ramp.effective
        = Quantize.down cent (repo.system.settings.targetPrincipal * (1 / 2))) :
      Raises config calendar start turns repo repo' (.transaction env .authorizeLaunch)
  | increase {env : AutoEnvironment ι} {op : CapitalOp} (operator : op.isOperatorChange = true)
      (above : repo.system.settings.targetPrincipal < repo'.system.settings.targetPrincipal)
      (half : repo'.ramp.effective = Quantize.down cent (repo.ramp.effective +
        (repo'.system.settings.targetPrincipal - repo.ramp.effective) * (1 / 2))) :
      Raises config calendar start turns repo repo' (.transaction env op)
  | stage {env : AutoEnvironment ι} (step : StageStep config calendar start turns repo repo' env) :
      Raises config calendar start turns repo repo' (.transaction env .advanceRampIfReady)

theorem Repository.held_of_stageFilled {env : AutoEnvironment ι}
    (hfilled : repo.stageFilled env = true) :
    repo.system.targetQtyGeneration.isSome = true ∧
      ∀ symbol, (repo.core symbol).targetQty ≤ (repo.core symbol).qty := by
  simp only [stageFilled, Bool.and_eq_true, List.all_eq_true, decide_eq_true_eq] at hfilled
  obtain ⟨⟨⟨⟨hfrozen, -⟩, hheld⟩, -⟩, -⟩ := hfilled
  refine ⟨hfrozen, fun symbol => hheld symbol ?_⟩
  cases symbol <;> simp

theorem stagePrincipal_zero (target fraction : Decimal) :
    stagePrincipal 0 target fraction = Quantize.down cent (target * fraction) := by
  rw [stagePrincipal, zero_add, sub_zero]

/-- The fractions grow with the stage. -/
theorem rampFraction_mono {stage : ℕ} {fraction fraction' : Decimal}
    (hok : rampFraction stage = .ok fraction) (hnext : rampFraction (stage + 1) = .ok fraction') :
    fraction ≤ fraction' := by
  unfold rampFraction at hok
  split at hok
  · obtain rfl := Except.ok.inj hok
    obtain rfl := Except.ok.inj hnext
    norm_num
  · obtain rfl := Except.ok.inj hok
    obtain rfl := Except.ok.inj hnext
    norm_num
  · cases hnext
  · cases hok

/-- A look at the ramp that opens the next stage is a step of the law. -/
theorem stageStep_of_advanced (hbefore : start.system.BeforeAuto) {env : AutoEnvironment ι}
    {fraction : Decimal} (hgates : (capitalRun config calendar start turns).RampOpen)
    (hfilled : (capitalRun config calendar start turns).stageFilled env = true)
    (hsessions : minimumStageSessions ≤ calendar.completedSessionsSince env.latestCompletedDate
      ((capitalRun config calendar start turns).filledDate env))
    (hfraction : rampFraction ((capitalRun config calendar start turns).ramp.stage + 1)
      = .ok fraction)
    (hramp : repo'.ramp = { (capitalRun config calendar start turns).ramp with
      effective := stagePrincipal (capitalRun config calendar start turns).ramp.base
        (capitalRun config calendar start turns).ramp.target fraction
      stage := (capitalRun config calendar start turns).ramp.stage + 1
      filledDate := none }) :
    StageStep config calendar start turns (capitalRun config calendar start turns) repo' env := by
  have hcontract : CapitalReachable config (capitalRun config calendar start turns) :=
    capitalRun_reachable hbefore
  have hlaunched : (capitalRun config calendar start turns).ramp.launched = true :=
    decide_eq_true hgates.launchAuthorized
  obtain ⟨hbase, hle, htarget⟩ := Repository.ramp_bounds hcontract.contract hlaunched hgates.stage
  refine {
    opened := ⟨fraction, hfraction, by rw [hramp]; rfl⟩
    target := htarget
    stage := by rw [hramp]
    raised := ?_
    gates := hgates
    held := Repository.held_of_stageFilled hfilled
    sessions := ?_ }
  · obtain ⟨old, hold, heffective⟩ := capitalRun_staged hbefore hlaunched hgates.stage
    obtain ⟨hhalf, -⟩ := rampFraction_ok hold
    rw [hramp, heffective]
    exact stagePrincipal_mono hbase hle (le_trans (by norm_num) hhalf)
      (rampFraction_mono hold hfraction)
  · cases hdate : (capitalRun config calendar start turns).ramp.filledDate with
    | some date =>
        have hstored : (capitalRun config calendar start turns).filledDate env = date := by
          rw [Repository.filledDate, ← Repository.ramp_filledDate, hdate, Option.getD_some]
        rw [hstored] at hsessions
        exact ⟨date, capitalRun_observed hbefore hlaunched hgates.stage hdate, hsessions⟩
    | none =>
        -- The stage would have been seen filled just now, and no session has completed since.
        have htoday : (capitalRun config calendar start turns).filledDate env
            = env.latestCompletedDate := by
          rw [Repository.filledDate, ← Repository.ramp_filledDate, hdate, Option.getD_none]
        rw [htoday, MarketCalendar.completedSessionsSince, if_pos le_rfl] at hsessions
        cases hsessions

/-- The principal of a launched account fits under its target. -/
theorem Repository.effective_le_target (hcontract : repo.system.capital.Contract)
    (hlaunched : repo.ramp.launched = true) :
    repo.ramp.effective ≤ repo.system.settings.targetPrincipal := by
  obtain ⟨effective, target, htarget, hopened, -⟩ := hcontract.opened (of_decide_eq_true hlaunched)
  have heffective : repo.system.effectivePrincipal = some effective := hopened.effectivePrincipal
  have htarget' : repo.system.targetPrincipal = some target := htarget
  simpa [SystemState.settings, heffective, htarget'] using hopened.le

/-- In every run, the principal rises only by the launch, by an operator increase and by
the stages of the ramp; a stage opens its fraction of what is added, only in a look that
finds the account clean, the stage filled and three sessions completed since an
observation that still stands; and a reduction counts at once and ends the ramp. -/
theorem effective_principal_opens_in_stages (config : StrategyConfig) (calendar : MarketCalendar)
    (hbefore : start.system.BeforeAuto) (turns : List (CapitalTurn ι)) (turn : CapitalTurn ι) :
    let repo := capitalRun config calendar start turns
    let repo' := turn.step config calendar repo
    (repo.ramp.effective < repo'.ramp.effective →
      Raises config calendar start turns repo repo' turn) ∧
    (repo.ramp.stage ≠ 0 → repo'.ramp.stage = repo.ramp.stage + 1 →
      ∃ env, turn = .transaction env .advanceRampIfReady ∧
        StageStep config calendar start turns repo repo' env) ∧
    (repo.ramp.launched = true →
      repo'.system.settings.targetPrincipal < repo.ramp.effective →
        repo'.ramp.effective = repo'.system.settings.targetPrincipal ∧ repo'.ramp.stage = 0) := by
  intro repo repo'
  have heffect : turn.Effect calendar repo repo' := capitalRun_effect hbefore
  have hreached : CapitalReachable config repo := capitalRun_reachable hbefore
  have hbounded : repo'.ramp.launched = true →
      repo'.ramp.effective ≤ repo'.system.settings.targetPrincipal :=
    Repository.effective_le_target (CapitalTurn.step_reachable hreached turn).contract
  -- A turn that keeps the launch and lowers nothing is no reduction.
  have hlower : repo.ramp.launched = true →
      repo'.system.settings.targetPrincipal < repo.ramp.effective →
        repo'.ramp.launched = repo.ramp.launched → ¬repo.ramp.effective ≤ repo'.ramp.effective := by
    intro hlaunched hbelow hsame hraised
    have hfits := hbounded (hsame.trans hlaunched)
    exact absurd (hbelow.trans_le hraised) (not_lt.mpr hfits)
  generalize repo' = after at heffect hbounded hlower ⊢
  cases heffect with
  | kept same =>
      -- What changes no ramp raises nothing, opens no stage and reduces nothing.
      rw [same] at hlower ⊢
      refine ⟨fun hrise => absurd hrise (lt_irrefl _), fun _ hstage => ?_, fun hlaunched hbelow => ?_⟩
      · omega
      · exact absurd le_rfl (hlower hlaunched hbelow rfl)
  | @operator env op change retarget =>
      generalize hramp : after.ramp = ramp at retarget hlower ⊢
      cases retarget with
      | kept =>
          refine ⟨fun hrise => absurd hrise (lt_irrefl _), fun _ hstage => ?_,
            fun hlaunched hbelow => ?_⟩
          · omega
          · exact absurd le_rfl (hlower hlaunched hbelow rfl)
      | reduced launched below =>
          -- A reduction is put into effect at once and ends the stages.
          refine ⟨fun hrise => absurd hrise (not_lt.mpr below.le), fun _ hstage => ?_,
            fun _ _ => ⟨rfl, rfl⟩⟩
          cases hstage
      | canceled launched fits below =>
          refine ⟨fun hrise => absurd hrise (lt_irrefl _), fun _ hstage => ?_,
            fun hlaunched hbelow => absurd hbelow (not_lt.mpr fits)⟩
          cases hstage
      | increased launched idle above =>
          -- An increase begins at the first stage, from where there was none.
          refine ⟨fun _ => .increase change above (by rw [hramp]; rfl), fun hstage => ?_,
            fun _ hbelow => ?_⟩
          · exact absurd idle hstage
          · have hfits := Repository.effective_le_target hreached.contract launched
            exact absurd (hbelow.trans_le hfits) (not_lt.mpr above.le)
  | launched new ramp_eq =>
      -- Before the launch there is no stage to step from.
      have hnew : repo.system.launchAuthorized ≠ some true := of_decide_eq_false new
      rw [ramp_eq]
      refine ⟨fun _ => .launch hnew (by rw [ramp_eq, stagePrincipal_zero]), fun hstage hnext => ?_,
        fun hlaunched => ?_⟩
      · have hone : (1 : ℕ) = repo.ramp.stage + 1 := hnext
        omega
      · rw [new] at hlaunched
        cases hlaunched
  | withdrawn gates unfilled ramp_eq =>
      rw [ramp_eq] at hlower ⊢
      refine ⟨fun hrise => absurd hrise (lt_irrefl _), fun _ hstage => ?_, fun hlaunched hbelow => ?_⟩
      · have hsame : repo.ramp.stage = repo.ramp.stage + 1 := hstage
        omega
      · exact absurd le_rfl (hlower hlaunched hbelow rfl)
  | observed gates filled ramp_eq =>
      rw [ramp_eq] at hlower ⊢
      refine ⟨fun hrise => absurd hrise (lt_irrefl _), fun _ hstage => ?_, fun hlaunched hbelow => ?_⟩
      · have hsame : repo.ramp.stage = repo.ramp.stage + 1 := hstage
        omega
      · exact absurd le_rfl (hlower hlaunched hbelow rfl)
  | finished gates filled last ramp_eq =>
      rw [ramp_eq] at hlower ⊢
      refine ⟨fun hrise => absurd hrise (lt_irrefl _), fun _ hstage => ?_, fun hlaunched hbelow => ?_⟩
      · cases hstage
      · exact absurd le_rfl (hlower hlaunched hbelow rfl)
  | @advanced env fraction gates filled sessions fraction_eq ramp_eq =>
      -- The only turn that opens a further stage.
      have hstep : StageStep config calendar start turns repo after env :=
        stageStep_of_advanced hbefore gates filled sessions fraction_eq ramp_eq
      refine ⟨fun _ => .stage hstep, fun _ _ => ⟨env, rfl, hstep⟩, fun hlaunched hbelow => ?_⟩
      have hsame : after.ramp.launched = repo.ramp.launched := by rw [ramp_eq]
      exact absurd hstep.raised (hlower hlaunched hbelow hsame)

end Runs

/-! ## A second stage -/

namespace SecondStage

/-- A session a day. -/
def calendar : MarketCalendar := ⟨fun _ => true⟩

/-- The account on a given day, after one automated fill. -/
def onDay (day : Date) : AutoEnvironment ℕ :=
  { AutoEnvironment.quiet with latestCompletedDate := day, completedAutoFills := 1 }

def opening : List (CapitalTurn ℕ) :=
  [.transaction (onDay 1) (.setBaseCapital 10000), .transaction (onDay 1) (.setRatioPercent 50),
    .transaction (onDay 1) .authorizeLaunch]

/-- The quarantine is released, and the frozen targets are held. -/
def released : Repository ℕ :=
  let launched := capitalRun .strategyYaml calendar (Repository.initial ℕ) opening
  launched.setSystem { launched.system with
    operatorBuyHalt := some false
    startupQuarantine := some false
    autoState := some .running
    targetQtyGeneration := some 1
    rampStageAutoFillSeen := some true }

def turns : List (CapitalTurn ℕ) :=
  opening ++ [.elsewhere released, .transaction (onDay 10) .advanceRampIfReady]

end SecondStage

/-- Three sessions after the first stage was seen filled, the second one opens. -/
theorem effective_principal_opens_in_stages_at_second :
    let repo := capitalRun .strategyYaml SecondStage.calendar (Repository.initial ℕ)
      SecondStage.turns
    let turn : CapitalTurn ℕ := .transaction (SecondStage.onDay 13) .advanceRampIfReady
    ∃ env, turn = .transaction env .advanceRampIfReady ∧
      StageStep .strategyYaml SecondStage.calendar (Repository.initial ℕ) SecondStage.turns repo
        (turn.step .strategyYaml SecondStage.calendar repo) env :=
  (effective_principal_opens_in_stages .strategyYaml SecondStage.calendar
    ⟨rfl, rfl, rfl, rfl, rfl⟩ SecondStage.turns
    (.transaction (SecondStage.onDay 13) .advanceRampIfReady)).2.1
      (by decide +kernel) (by decide +kernel)

end JdHoldings
