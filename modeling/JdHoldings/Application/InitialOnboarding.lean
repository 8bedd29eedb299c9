import JdHoldings.Application.ManagedAccount
import JdHoldings.Application.PortfolioService
import JdHoldings.Application.Signals
import JdHoldings.Core.InitialOnboarding

/-!
# The initial onboarding

`InitialOnboardingPortfolioService` caps what the allocator may buy while the first entry is
staged.  The operator starts the first stage and opens every later one; the service notes
when the quantities of a stage are filled, and ends the onboarding with the last of them.

What a call finds of the clock is the session that it takes to be completed, and the part
of `run_allocation` that is modelled here is what follows the allocation cycle itself.
-/

namespace JdHoldings

/-- A session that has been completed, as `_latest_completed` returns it. -/
structure CompletedSession (calendar : ExchangeCalendar) where
  date : Date
  isSession : (calendar.session date).isSome

/-- What the service keeps in the database, with its own keys but for the status. -/
structure OnboardingStore (ι : Type) where
  repo : Repository ι
  signals : List SignalRow := []
  stage : Option ℕ := none
  stageStarted : Option Date := none
  stageFilled : Option Date := none

/-- What `onboarding_snapshot` tells the operator of the progress. -/
structure OnboardingSnapshot where
  status : OnboardingStatus
  stage : ℕ
  stageFilled : Bool
  sessionsElapsed : ℕ
  sessionsRemaining : ℕ
  nextStageReady : Bool
  canStart : Bool
  startBlockReason : Option String
deriving DecidableEq, Repr

variable {ι : Type}

/-! ## The portfolio -/

/-- `_portfolio_is_safe`. -/
def Repository.portfolioIsSafe (repo : Repository ι) : Bool :=
  decide (repo.system.portfolioSafeMode = some true) ||
    decide ((repo.positions .tqqq).state = .safeMode) ||
    decide ((repo.positions .soxl).state = .safeMode)

/-- `_managed_portfolio_is_flat`. -/
def Repository.managedPortfolioIsFlat (repo : Repository ι) : Bool :=
  !(repo.corePositions.any fun (_, row) => decide (0 < row.qty)) &&
    !(decide (0 < (repo.positions .tqqq).quantity) || decide (0 < (repo.positions .soxl).quantity))

/-- `_start_block_reason`. -/
def Repository.startBlockReason (repo : Repository ι) : Option String :=
  if repo.managedPortfolioIsFlat = false then
    some "기존 JDSS 관리 포지션이 있어 최초진입을 시작할 수 없습니다"
  else if repo.openOrders.any fun row => row.purpose.isCore then
    some "기존 allocation 미체결 주문이 있어 최초진입을 시작할 수 없습니다"
  else if repo.portfolioIsSafe then some "SAFE_MODE에서는 최초진입을 시작할 수 없습니다"
  else none

/-- `_invalidate_active_core_buy_signals`. -/
def invalidateActiveCoreBuySignals (signals : List SignalRow) (reason : String) : List SignalRow :=
  signals.map fun row =>
    if row.isActive = true ∧ row.action = .coreRebalanceBuy then row.invalidate reason else row

namespace OnboardingStore

/-- A write of the status key. -/
def setStatus (store : OnboardingStore ι) (status : OnboardingStatus) : OnboardingStore ι :=
  { store with
    repo := store.repo.setSystem { store.repo.system with onboardingStatus := some status } }

@[simp] theorem setStatus_status (store : OnboardingStore ι) (status : OnboardingStatus) :
    (store.setStatus status).repo.system.onboardingStatus = some status := rfl

@[simp] theorem setStatus_stage (store : OnboardingStore ι) (status : OnboardingStatus) :
    (store.setStatus status).stage = store.stage := rfl

@[simp] theorem setStatus_core (store : OnboardingStore ι) (status : OnboardingStatus) :
    (store.setStatus status).repo.core = store.repo.core := rfl

end OnboardingStore

/-! ## The service -/

namespace InitialOnboarding

variable (policy : InitialOnboardingPolicy) (calendar : ExchangeCalendar)

/-- `_bootstrap_onboarding_state`. -/
def bootstrap (store : OnboardingStore ι) : OnboardingStore ι :=
  match store.repo.system.onboardingStatus with
  | some _ => store
  | none =>
      if policy.enabled = false then store.setStatus .disabled
      else if store.repo.managedPortfolioIsFlat = false then store.setStatus .bypassed
      else store

/-- `onboarding_status`. -/
def onboardingStatus (store : OnboardingStore ι) : OnboardingStatus :=
  store.repo.system.onboardingStatus.getD (if policy.enabled then .notStarted else .disabled)

/-- `onboarding_stage`. -/
def onboardingStage (store : OnboardingStore ι) : Py ℕ := do
  let stage := store.stage.getD 0
  raiseIf (policy.totalStages < stage) (.runtime s!"initial onboarding 저장 단계 오류: {stage}")
  return stage

/-- `_effective_fraction`. -/
def effectiveFraction (store : OnboardingStore ι) : Py Decimal :=
  match onboardingStatus policy store with
  | .notStarted => .ok 0
  | .active => do
      let stage ← onboardingStage policy store
      return if stage < 1 then 0 else policy.fractionForStage stage
  | _ => .ok 1

/-- `_effective_target_quantity`. -/
def effectiveTargetQuantity (store : OnboardingStore ι) (core : CoreRow) : Py ℕ :=
  match onboardingStatus policy store with
  | .notStarted => .ok (min core.qty core.targetQty)
  | .active => do scaledTargetQuantity core.targetQty (← effectiveFraction policy store)
  | _ => .ok core.targetQty

/-- `_stage_is_filled`. -/
def stageIsFilled (store : OnboardingStore ι) : Py Bool :=
  if store.repo.system.targetQtyGeneration = none then .ok false
  else store.repo.corePositions.allM fun (_, core) => do
    return decide ((← effectiveTargetQuantity policy store core) ≤ core.qty)

/-- `_refresh_onboarding_progress`: the store it leaves, and its events. -/
def refreshOnboardingProgress (store : OnboardingStore ι) (completed : Date) :
    Py (OnboardingStore ι × List String) :=
  if onboardingStatus policy store ≠ .active then .ok (store, [])
  else do
    let stage ← onboardingStage policy store
    if stage < 1 then return (store, [])
    let filled ← stageIsFilled policy store
    if filled = false then return ({ store with stageFilled := none }, [])
    let events := if store.stageFilled = none then
      [s!"최초진입 {stage}/{policy.totalStages} 목표수량 체결 완료"] else []
    let noted := { store with stageFilled := some (store.stageFilled.getD completed) }
    if stage = policy.totalStages then
      return (noted.setStatus .completed, events ++ ["최초진입 3단계 완료 · 이후 V3.2.2 일반 운용으로 전환"])
    return (noted, events)

/-- `onboarding_snapshot`. -/
def onboardingSnapshot (store : OnboardingStore ι) (completed : Date) : Py OnboardingSnapshot := do
  let status := onboardingStatus policy store
  let stored ← onboardingStage policy store
  let stage := if status = .completed then policy.totalStages else stored
  let elapsed := calendar.sessionsElapsed store.stageFilled completed
  let stageFilled ←
    (if status = .active ∧ 1 ≤ stage then stageIsFilled policy store else .ok false : Py Bool)
  let openLater := decide (status = .active) && decide (stage < policy.totalStages)
  let minimum := policy.minimumSessionsBetweenStages
  let reason := if status = .notStarted ∨ status = .bypassed then store.repo.startBlockReason else none
  return {
    status := status
    stage := stage
    stageFilled := stageFilled
    sessionsElapsed := elapsed
    sessionsRemaining :=
      if openLater = false then 0
      else if store.stageFilled = none ∨ stageFilled = false then minimum
      else minimum - elapsed
    nextStageReady := openLater && stageFilled && store.stageFilled.isSome && decide (minimum ≤ elapsed)
    canStart := decide (status = .notStarted ∨ status = .bypassed) && decide (reason = none)
    startBlockReason := reason }

/-- The writes that open a stage.  The source commits them one by one; this is what a call
leaves that has made them all. -/
def openStage (store : OnboardingStore ι) (stage : ℕ) (completed : Date) (reason : String) :
    OnboardingStore ι :=
  { store.setStatus .active with
    signals := invalidateActiveCoreBuySignals store.signals reason
    stage := some stage
    stageStarted := some completed
    stageFilled := none }

/-- `start_onboarding`. -/
def startOnboarding (store : OnboardingStore ι) (completed : Date) :
    OnboardingStore ι × Py OnboardingSnapshot :=
  if policy.enabled = false then (store, .error (.runtime "최초진입 분할 기능이 비활성화되어 있습니다"))
  else
    match onboardingStatus policy store with
    | .completed => (store, .error (.runtime "최초진입 분할은 이미 완료되었습니다"))
    | .active => (store, onboardingSnapshot policy calendar store completed)
    | _ =>
        match store.repo.startBlockReason with
        | some reason => (store, .error (.runtime reason))
        | none =>
            let started := openStage store 1 completed "INITIAL_ONBOARDING_STARTED"
            (started, onboardingSnapshot policy calendar started completed)

/-- Why the next stage stays closed. -/
def notReadyMessage (snapshot : OnboardingSnapshot) : String :=
  if snapshot.stageFilled = false then "현재 단계 목표수량이 아직 모두 체결되지 않았습니다"
  else s!"다음 단계까지 미국 거래일 {snapshot.sessionsRemaining}일을 더 기다려야 합니다"

/-- `advance_onboarding`. -/
def advanceOnboarding (store : OnboardingStore ι) (completed : Date) :
    OnboardingStore ι × Py OnboardingSnapshot :=
  if onboardingStatus policy store ≠ .active then
    (store, .error (.runtime "진행 중인 최초진입 분할이 없습니다"))
  else
    match refreshOnboardingProgress policy store completed with
    | .error error => (store, .error error)
    | .ok (refreshed, _) =>
        match onboardingSnapshot policy calendar refreshed completed with
        | .error error => (refreshed, .error error)
        | .ok snapshot =>
            if snapshot.status = .completed then (refreshed, .ok snapshot)
            else if policy.totalStages ≤ snapshot.stage then
              (refreshed, .error (.runtime "이미 마지막 최초진입 단계입니다"))
            else if snapshot.nextStageReady = false then
              (refreshed, .error (.runtime (notReadyMessage snapshot)))
            else
              let opened := openStage refreshed (snapshot.stage + 1) completed
                "INITIAL_ONBOARDING_STAGE_ADVANCED"
              (opened, onboardingSnapshot policy calendar opened completed)

/-- What `run_allocation` does after the cycle: the store it leaves, and the events it adds. -/
def afterAllocation (store : OnboardingStore ι) (completed : Date) :
    OnboardingStore ι × Py (List String) :=
  if onboardingStatus policy store ≠ .active then (store, .ok [])
  else if store.repo.portfolioIsSafe then (store, .ok [])
  else
    match refreshOnboardingProgress policy store completed with
    | .error error => (store, .error error)
    | .ok (refreshed, events) => (refreshed, .ok events)

/-! ## What the calls do -/

variable {policy calendar} {store refreshed : OnboardingStore ι} {completed : Date}
  {events : List String}

theorem onboardingStatus_of_some {status : OnboardingStatus}
    (hstatus : store.repo.system.onboardingStatus = some status) :
    onboardingStatus policy store = status := by
  rw [onboardingStatus, hstatus]
  rfl

/-- Only a stored status can be active. -/
theorem onboardingStatus_eq_active :
    onboardingStatus policy store = .active ↔
      store.repo.system.onboardingStatus = some .active := by
  unfold onboardingStatus
  cases store.repo.system.onboardingStatus with
  | some status => simp
  | none => cases policy.enabled <;> simp

/-- Every quantity of the stage is held. -/
def StageFilled (policy : InitialOnboardingPolicy) (store : OnboardingStore ι) : Prop :=
  stageIsFilled policy store = .ok true

/-- What a refresh leaves. -/
inductive Refreshed (policy : InitialOnboardingPolicy) (store : OnboardingStore ι)
    (completed : Date) : OnboardingStore ι → Prop
  | idle (hidle : onboardingStatus policy store ≠ .active ∨ store.stage.getD 0 = 0) :
      Refreshed policy store completed store
  | unfilled : Refreshed policy store completed { store with stageFilled := none }
  | noted (hactive : onboardingStatus policy store = .active) (hfilled : StageFilled policy store) :
      Refreshed policy store completed
        { store with stageFilled := some (store.stageFilled.getD completed) }
  | finished (hactive : onboardingStatus policy store = .active)
      (hfilled : StageFilled policy store) (hlast : store.stage.getD 0 = policy.totalStages) :
      Refreshed policy store completed
        (OnboardingStore.setStatus
          { store with stageFilled := some (store.stageFilled.getD completed) } .completed)

theorem refreshOnboardingProgress_ok
    (hok : refreshOnboardingProgress policy store completed = .ok (refreshed, events)) :
    Refreshed policy store completed refreshed := by
  unfold refreshOnboardingProgress at hok
  split at hok
  next hidle =>
    cases hok
    exact .idle (.inl hidle)
  next hactive =>
    rw [ne_eq, not_not] at hactive
    simp only [onboardingStage, Except.bind_eq_ok, raiseIf_eq_ok] at hok
    obtain ⟨stage, ⟨-, -, hstage⟩, hok⟩ := hok
    cases hstage
    split at hok
    next hzero =>
      cases hok
      exact .idle (.inr (Nat.lt_one_iff.mp hzero))
    · obtain ⟨filled, hfilled, hok⟩ := Except.bind_eq_ok.mp hok
      cases filled with
      | false =>
          cases hok
          exact .unfilled
      | true =>
          simp only [Bool.true_eq_false, if_false] at hok
          split at hok
          next hlast =>
            cases hok
            exact .finished hactive hfilled hlast
          · cases hok
            exact .noted hactive hfilled

/-- An opened stage is the next one, its predecessor is filled, and the waiting time since then
has passed. -/
inductive Advanced (policy : InitialOnboardingPolicy) (calendar : ExchangeCalendar)
    (store : OnboardingStore ι) (completed : Date) : OnboardingStore ι → Prop
  | kept : Advanced policy calendar store completed store
  | refreshed {refreshed : OnboardingStore ι} (hrefreshed : Refreshed policy store completed refreshed) :
      Advanced policy calendar store completed refreshed
  | opened {refreshed : OnboardingStore ι} {stage filled : ℕ}
      (hrefreshed : Refreshed policy store completed refreshed)
      (hactive : onboardingStatus policy refreshed = .active)
      (hstage : refreshed.stage.getD 0 = stage) (hlt : stage < policy.totalStages)
      (hfilled : StageFilled policy refreshed) (hnoted : refreshed.stageFilled = some filled)
      (hwaited : policy.minimumSessionsBetweenStages
        ≤ calendar.sessionsElapsed (some filled) completed) :
      Advanced policy calendar store completed
        (openStage refreshed (stage + 1) completed "INITIAL_ONBOARDING_STAGE_ADVANCED")

/-- What a snapshot that promises the next stage has seen. -/
theorem onboardingSnapshot_ready {snapshot : OnboardingSnapshot}
    (hok : onboardingSnapshot policy calendar store completed = .ok snapshot)
    (hready : snapshot.nextStageReady = true) :
    onboardingStatus policy store = .active ∧ snapshot.stage = store.stage.getD 0 ∧
      snapshot.stage < policy.totalStages ∧ StageFilled policy store ∧
      ∃ filled, store.stageFilled = some filled ∧
        policy.minimumSessionsBetweenStages ≤ calendar.sessionsElapsed (some filled) completed := by
  simp only [onboardingSnapshot, onboardingStage, Except.bind_eq_ok, raiseIf_eq_ok] at hok
  obtain ⟨stored, ⟨-, -, hstored⟩, stageFilled, hfilled, hsnapshot⟩ := hok
  cases hstored
  cases hsnapshot
  simp only [Bool.and_eq_true, decide_eq_true_eq] at hready
  obtain ⟨⟨⟨⟨hactive, hlt⟩, rfl⟩, hsome⟩, hwaited⟩ := hready
  obtain ⟨filled, hnoted⟩ := Option.isSome_iff_exists.mp hsome
  simp only [hactive, reduceCtorEq, if_false, true_and] at hlt hfilled ⊢
  rw [hnoted] at hwaited
  refine ⟨hlt, ?_, filled, hnoted, hwaited⟩
  split at hfilled
  · exact hfilled
  · cases hfilled

variable (policy calendar store completed) in
theorem advanceOnboarding_advanced :
    Advanced policy calendar store completed
      (advanceOnboarding policy calendar store completed).1 := by
  unfold advanceOnboarding
  split
  · exact .kept
  · split
    · exact .kept
    next hrefresh =>
      have hrefreshed := refreshOnboardingProgress_ok hrefresh
      split
      · exact .refreshed hrefreshed
      next snapshot hsnapshot =>
        split
        · exact .refreshed hrefreshed
        split
        · exact .refreshed hrefreshed
        split
        · exact .refreshed hrefreshed
        next hready =>
          obtain ⟨hactive, hstage, hlt, hfilled, filled, hnoted, hwaited⟩ :=
            onboardingSnapshot_ready hsnapshot (Bool.eq_true_of_not_eq_false hready)
          exact .opened hrefreshed hactive hstage.symm hlt hfilled hnoted hwaited

variable (policy calendar store completed) in
/-- A start that opens the first stage finds a portfolio without positions or orders. -/
theorem startOnboarding_cases :
    (startOnboarding policy calendar store completed).1 = store ∨
      (store.repo.startBlockReason = none ∧ policy.enabled = true ∧
        onboardingStatus policy store ≠ .active ∧ onboardingStatus policy store ≠ .completed ∧
        (startOnboarding policy calendar store completed).1
          = openStage store 1 completed "INITIAL_ONBOARDING_STARTED") := by
  unfold startOnboarding
  split
  · exact .inl rfl
  next henabled =>
    split
    · exact .inl rfl
    · exact .inl rfl
    next hcompleted hactive =>
      split
      · exact .inl rfl
      next hreason =>
        exact .inr ⟨hreason, Bool.eq_true_of_not_eq_false henabled, hactive, hcompleted, rfl⟩

variable (policy store completed) in
theorem afterAllocation_refreshed :
    Refreshed policy store completed (afterAllocation policy store completed).1 ∨
      (afterAllocation policy store completed).1 = store := by
  unfold afterAllocation
  split
  · exact .inr rfl
  · split
    · exact .inr rfl
    · split
      · exact .inr rfl
      next hrefresh => exact .inl (refreshOnboardingProgress_ok hrefresh)

/-! ## The targets of an open stage -/

section OpenStage

variable {stage : ℕ}

theorem effectiveFraction_of_active (hactive : onboardingStatus policy store = .active)
    (hstage : store.stage = some stage) (hpos : 0 < stage) (hle : stage ≤ policy.totalStages) :
    effectiveFraction policy store = .ok (policy.fractionForStage stage) := by
  have hread : onboardingStage policy store = .ok stage := by
    simp only [onboardingStage, hstage, Option.getD_some, raiseIf, if_neg (not_lt.mpr hle)]
    rfl
  simp only [effectiveFraction, hactive, hread, Except.ok_then, if_neg (Nat.not_lt.mpr (Nat.succ_le_of_lt hpos))]
  rfl

theorem effectiveTargetQuantity_of_active (hstaged : policy.Staged)
    (hactive : onboardingStatus policy store = .active) (hstage : store.stage = some stage)
    (hpos : 0 < stage) (hle : stage ≤ policy.totalStages) (core : CoreRow) :
    effectiveTargetQuantity policy store core
      = .ok ⌊core.targetQty * policy.fractionForStage stage⌋₊ := by
  simp only [effectiveTargetQuantity, hactive,
    effectiveFraction_of_active hactive hstage hpos hle, Except.ok_then]
  exact scaledTargetQuantity_eq (hstaged.fractionForStage_pos hpos hle).le
    (hstaged.fractionForStage_le_one hpos hle) _

/-- A stage is filled when the quantities of a generation are frozen and its share of each of
them is held. -/
theorem stageFilled_iff (hstaged : policy.Staged) (hactive : onboardingStatus policy store = .active)
    (hstage : store.stage = some stage) (hpos : 0 < stage) (hle : stage ≤ policy.totalStages) :
    StageFilled policy store ↔ store.repo.system.targetQtyGeneration ≠ none ∧
      ∀ symbol, ⌊(store.repo.core symbol).targetQty * policy.fractionForStage stage⌋₊
        ≤ (store.repo.core symbol).qty := by
  have htarget := effectiveTargetQuantity_of_active hstaged hactive hstage hpos hle
  unfold StageFilled stageIsFilled
  split
  next hnone => simp [hnone]
  next hsome =>
    simp only [htarget, Except.ok_then]
    rw [List.allM_pure]
    simp only [pure, Except.pure, Except.ok.injEq, List.all_eq_true, Repository.corePositions, List.forall_mem_map,
      decide_eq_true_eq]
    refine ⟨fun hall => ⟨hsome, fun symbol => ?_⟩, fun hall symbol _ => hall.2 symbol⟩
    exact hall symbol (by cases symbol <;> decide)

end OpenStage

end InitialOnboarding

end JdHoldings
