import JdHoldings.Application.InitialOnboarding
import JdHoldings.Automation.AttemptLimits
import JdHoldings.Library.Runs

/-!
# One stage at a time

A run of the onboarding is what the operator, the allocator, restarts of the process, and
everything else that writes the database do to its store.  The service commits its keys one
by one; a move of the run is a call that has come to its end, with nothing of another move
between its commits, and a call that a crash cuts short is none.  Two facts hold along every
run from a database that has never been onboarded.

* **Order.**  A call opens at most one stage, and only when every quantity of the stage
  before it is held (`OpensAtMostOne`), and an open stage is one of the policy (`InRange`).
  A completed onboarding is never reopened.
* **Time.**  Where the clock does not run backwards, stage `k` is not opened before
  `k - 1` waiting times have passed since the first one.  So the live account is never
  further than the backtest, which opens a stage with every waiting time
  (`onboarding_within_backtest`), until the launch of AUTO takes the staging over.

The second rests on `OnboardingRun.Timed`: the sessions from the first stage to the
current one, and those from the current stage to the note that it is filled, add up.
-/

namespace JdHoldings

open InitialOnboarding

variable {ι : Type} {calendar : ExchangeCalendar}

/-! ## Runs -/

/-- Something that happens to the store of the onboarding. -/
inductive OnboardingMove (ι : Type) (calendar : ExchangeCalendar) where
  | restart
  | start (completed : CompletedSession calendar)
  | advance (completed : CompletedSession calendar)
  | allocated (completed : CompletedSession calendar)
  /-- Orders, fills, targets, signals: whatever leaves the keys of the onboarding alone. -/
  | elsewhere (repo : Repository ι) (signals : List SignalRow)
  /-- The launch of AUTO, which takes the staging over. -/
  | handOver

/-- The session the clock has reached in a call. -/
def OnboardingMove.date : OnboardingMove ι calendar → Option Date
  | .start completed | .advance completed | .allocated completed => some completed.date
  | _ => none

/-- The keys `complete_launch` writes. -/
def OnboardingStore.handOver (store : OnboardingStore ι) : OnboardingStore ι :=
  { store.setStatus .completed with stage := some 3, stageFilled := none }

/-- The database after another service has written it. -/
def OnboardingStore.elsewhere (store : OnboardingStore ι) (repo : Repository ι)
    (signals : List SignalRow) : OnboardingStore ι :=
  { store with
    repo := repo.setSystem
      { repo.system with onboardingStatus := store.repo.system.onboardingStatus }
    signals := signals }

def OnboardingMove.apply (policy : InitialOnboardingPolicy) (store : OnboardingStore ι) :
    OnboardingMove ι calendar → OnboardingStore ι
  | .restart => bootstrap policy store
  | .start completed => (startOnboarding policy calendar store completed.date).1
  | .advance completed => (advanceOnboarding policy calendar store completed.date).1
  | .allocated completed => (afterAllocation policy store completed.date).1
  | .elsewhere repo signals => store.elsewhere repo signals
  | .handOver => store.handOver

/-- A store, the last session the clock has shown, and when the first stage was opened. -/
structure OnboardingRun (ι : Type) where
  store : OnboardingStore ι
  clock : Date := 0
  firstStarted : Option Date := none

namespace OnboardingRun

def step (policy : InitialOnboardingPolicy) (run : OnboardingRun ι)
    (move : OnboardingMove ι calendar) : OnboardingRun ι where
  store := move.apply policy run.store
  clock := move.date.getD run.clock
  firstStarted :=
    if onboardingStatus policy run.store ≠ .active ∧
        onboardingStatus policy (move.apply policy run.store) = .active then move.date
    else run.firstStarted

/-- The clock does not run backwards. -/
def Chronological (run : OnboardingRun ι) (move : OnboardingMove ι calendar) : Prop :=
  ∀ date, move.date = some date → run.clock ≤ date

end OnboardingRun

/-! ## Order -/

/-- How far the onboarding is: the number of stages opened, and one more when it is over. -/
def OnboardingStore.rank (policy : InitialOnboardingPolicy) (store : OnboardingStore ι) : ℕ :=
  match onboardingStatus policy store with
  | .active => store.stage.getD 0
  | .completed => policy.totalStages + 1
  | _ => 0

/-- An open stage is one of the policy. -/
def OnboardingStore.InRange (policy : InitialOnboardingPolicy) (store : OnboardingStore ι) : Prop :=
  onboardingStatus policy store = .active →
    ∃ stage, store.stage = some stage ∧ 0 < stage ∧ stage ≤ policy.totalStages

/-- The shares of an open stage are held. -/
def OnboardingStore.Holds (policy : InitialOnboardingPolicy) (store : OnboardingStore ι)
    (stage : ℕ) : Prop :=
  ∀ symbol, ⌊(store.repo.core symbol).targetQty * policy.fractionForStage stage⌋₊
    ≤ (store.repo.core symbol).qty

/-- Nothing is opened, or one stage is: the first from a portfolio without positions and
allocation orders, a later one when the shares of the one before it are held. -/
def OpensAtMostOne (policy : InitialOnboardingPolicy) (before after : OnboardingStore ι) : Prop :=
  after.rank policy = before.rank policy ∨
    after.rank policy = before.rank policy + 1 ∧
      if before.rank policy = 0 then before.repo.startBlockReason = none
      else before.Holds policy (before.rank policy)

section Order

variable {policy : InitialOnboardingPolicy} {store refreshed : OnboardingStore ι} {completed : Date}

theorem rank_of_active {stage : ℕ} (hactive : onboardingStatus policy store = .active)
    (hstage : store.stage = some stage) : store.rank policy = stage := by
  simp only [OnboardingStore.rank, hactive, hstage, Option.getD_some]

/-- A refresh that leaves the onboarding open changes nothing but the note. -/
theorem InitialOnboarding.Refreshed.of_active (hrefreshed : Refreshed policy store completed refreshed)
    (hactive : onboardingStatus policy refreshed = .active) :
    refreshed.repo = store.repo ∧ refreshed.stage = store.stage ∧
      refreshed.stageStarted = store.stageStarted := by
  cases hrefreshed with
  | idle => exact ⟨rfl, rfl, rfl⟩
  | unfilled => exact ⟨rfl, rfl, rfl⟩
  | noted => exact ⟨rfl, rfl, rfl⟩
  | finished => cases hactive

theorem InitialOnboarding.Refreshed.active_before
    (hrefreshed : Refreshed policy store completed refreshed)
    (hactive : onboardingStatus policy refreshed = .active) :
    onboardingStatus policy store = .active := by
  rw [onboardingStatus_eq_active, ← (hrefreshed.of_active hactive).1]
  exact onboardingStatus_eq_active.mp hactive

theorem InitialOnboarding.Advanced.active_before {after : OnboardingStore ι}
    (hadvanced : Advanced policy calendar store completed after)
    (hactive : onboardingStatus policy after = .active) :
    onboardingStatus policy store = .active := by
  cases hadvanced with
  | kept => exact hactive
  | refreshed hrefreshed => exact hrefreshed.active_before hactive
  | opened hrefreshed hopened => exact hrefreshed.active_before hopened

/-- A refresh ends the onboarding, or leaves its stage. -/
theorem InitialOnboarding.Refreshed.order (hstaged : policy.Staged) (hrange : store.InRange policy)
    (hrefreshed : Refreshed policy store completed refreshed) :
    OpensAtMostOne policy store refreshed ∧ refreshed.InRange policy := by
  cases hrefreshed with
  | idle => exact ⟨.inl rfl, hrange⟩
  | unfilled => exact ⟨.inl rfl, hrange⟩
  | noted => exact ⟨.inl rfl, hrange⟩
  | finished hactive hfilled hlast =>
      -- the last stage is over, which counts as one more
      obtain ⟨stage, hstage, hpos, hle⟩ := hrange hactive
      rw [hstage, Option.getD_some] at hlast
      refine ⟨.inr ?_, nofun⟩
      rw [rank_of_active hactive hstage, hlast, if_neg (hlast ▸ hpos).ne']
      refine ⟨rfl, ?_⟩
      exact ((stageFilled_iff hstaged hactive (hlast ▸ hstage) (hlast ▸ hpos) le_rfl).mp hfilled).2

theorem openStage_rank {stage : ℕ} {reason : String} :
    (openStage store stage completed reason).rank policy = stage :=
  rank_of_active (onboardingStatus_of_some rfl) rfl

/-- Where the status is not active and not completed, no stage is open. -/
theorem rank_eq_zero (hactive : onboardingStatus policy store ≠ .active)
    (hcompleted : onboardingStatus policy store ≠ .completed) : store.rank policy = 0 := by
  unfold OnboardingStore.rank
  split <;> first | contradiction | rfl

/-- A call of the operator or the allocator opens at most one stage. -/
theorem OnboardingMove.order (hstaged : policy.Staged) (hrange : store.InRange policy)
    (move : OnboardingMove ι calendar) :
    (move = .handOver ∨ OpensAtMostOne policy store (move.apply policy store)) ∧
      (move.apply policy store).InRange policy := by
  cases move with
  | restart =>
      show (_ ∨ OpensAtMostOne policy store (bootstrap policy store)) ∧
        (bootstrap policy store).InRange policy
      unfold bootstrap
      split
      · exact ⟨.inr (.inl rfl), hrange⟩
      next hnone =>
        -- Nothing stored: a restart of a fresh account, which has opened no stage.
        have hrank : store.rank policy = 0 := by
          refine rank_eq_zero ?_ ?_ <;>
          · rw [onboardingStatus, hnone]
            cases policy.enabled <;> decide
        split
        · exact ⟨.inr (.inl hrank.symm), fun hactive => by cases hactive⟩
        · split
          · exact ⟨.inr (.inl hrank.symm), fun hactive => by cases hactive⟩
          · exact ⟨.inr (.inl rfl), hrange⟩
  | start completed =>
      rcases startOnboarding_cases policy calendar store completed.date with
        hsame | ⟨hreason, -, hactive, hcompleted, hopened⟩
      · rw [OnboardingMove.apply, hsame]
        exact ⟨.inr (.inl rfl), hrange⟩
      · rw [OnboardingMove.apply, hopened]
        refine ⟨.inr (.inr ?_), fun _ => ⟨1, rfl, Nat.one_pos, hstaged.totalStages_pos⟩⟩
        rw [openStage_rank, rank_eq_zero hactive hcompleted, if_pos rfl]
        exact ⟨rfl, hreason⟩
  | advance completed =>
      have hadvanced := advanceOnboarding_advanced policy calendar store completed.date
      rw [OnboardingMove.apply]
      generalize (advanceOnboarding policy calendar store completed.date).1 = after at hadvanced ⊢
      cases hadvanced with
      | kept => exact ⟨.inr (.inl rfl), hrange⟩
      | refreshed hrefreshed =>
          obtain ⟨hopens, hafter⟩ := hrefreshed.order hstaged hrange
          exact ⟨.inr hopens, hafter⟩
      | @opened refreshed stage filled hrefreshed hactive hstage hlt hfilled hnoted hwaited =>
          -- the shares are counted after the refresh, which has left the account alone
          obtain ⟨hrepo, hsame, -⟩ := hrefreshed.of_active hactive
          have hbefore := hrefreshed.active_before hactive
          obtain ⟨open_, hopen, hpos, hle⟩ := hrange hbefore
          rw [hsame, hopen, Option.getD_some] at hstage
          subst hstage
          refine ⟨.inr (.inr ?_), fun _ => ⟨open_ + 1, rfl, Nat.succ_pos _, hlt⟩⟩
          rw [openStage_rank, rank_of_active hbefore hopen, if_neg hpos.ne']
          refine ⟨rfl, ?_⟩
          rw [stageFilled_iff hstaged hactive (hsame.trans hopen) hpos hle, hrepo] at hfilled
          exact hfilled.2
  | allocated completed =>
      rcases afterAllocation_refreshed policy store completed.date with hrefreshed | hsame
      · obtain ⟨hopens, hafter⟩ := hrefreshed.order hstaged hrange
        exact ⟨.inr hopens, hafter⟩
      · rw [OnboardingMove.apply, hsame]
        exact ⟨.inr (.inl rfl), hrange⟩
  | elsewhere repo signals => exact ⟨.inr (.inl rfl), hrange⟩
  | handOver => exact ⟨.inl rfl, fun hactive => by cases hactive⟩

end Order

/-- Along every run from a database that has never been onboarded, no call of the operator or
the allocator and no restart opens more than one stage, and each opens it only when the shares
of the stage before it are held; an open stage is always one of the policy. -/
theorem onboarding_opens_one_stage_at_a_time {raw : RawOnboarding}
    {policy : InitialOnboardingPolicy} (hloaded : InitialOnboardingPolicy.fromConfig raw = .ok policy)
    {store : OnboardingStore ι}
    (hfresh : store.repo.system.onboardingStatus = none)
    (moves : List (OnboardingMove ι calendar)) :
    Run.Along (OnboardingRun.step policy) (fun run move =>
      (move = .handOver ∨ OpensAtMostOne policy run.store (move.apply policy run.store)) ∧
        (move.apply policy run.store).InRange policy) { store := store } moves := by
  have hstaged := InitialOnboardingPolicy.fromConfig_staged hloaded
  refine Run.Along.imp (I := fun run : OnboardingRun ι => run.store.InRange policy)
    (C := fun _ _ => True) ?_ ?_ (Run.along_of_forall (fun _ _ => trivial) _ _) ?_
  · exact fun run move hrange _ => (move.order hstaged hrange).2
  · exact fun run move hrange _ => move.order hstaged hrange
  · -- nothing is open in a database that has never been onboarded
    intro hactive
    rw [onboardingStatus_eq_active, hfresh] at hactive
    cases hactive

namespace FirstDay

/-- One half, three quarters, and the rest, with five sessions between them. -/
def policy : InitialOnboardingPolicy := ⟨true, [1 / 2, 3 / 4, 1], 5⟩

def raw : RawOnboarding := ⟨some true, some [1 / 2, 3 / 4, 1], some 5⟩

theorem loaded : InitialOnboardingPolicy.fromConfig raw = .ok policy := by
  norm_num [InitialOnboardingPolicy.fromConfig, InitialOnboardingPolicy.validate,
    InitialOnboardingPolicy.validateFractions, raw, policy, raiseIf]
  rfl

def store : OnboardingStore ℕ := { repo := Repository.initial ℕ }

def completed : CompletedSession .oneSession := ⟨740168, by decide⟩

/-- The operator starts, and asks for the next stage at once. -/
def moves : List (OnboardingMove ℕ .oneSession) :=
  [.restart, .start completed, .allocated completed, .advance completed]

end FirstDay

theorem onboarding_opens_one_stage_at_a_time_first_day :
    Run.Along (OnboardingRun.step FirstDay.policy) (fun run move =>
      (move = .handOver ∨
        OpensAtMostOne FirstDay.policy run.store (move.apply FirstDay.policy run.store)) ∧
        (move.apply FirstDay.policy run.store).InRange FirstDay.policy)
      { store := FirstDay.store } FirstDay.moves :=
  onboarding_opens_one_stage_at_a_time FirstDay.loaded rfl FirstDay.moves

/-! ## Time -/

namespace OnboardingRun

/-- A stage has been open since a session, and the first one since another. -/
structure Open (policy : InitialOnboardingPolicy) (calendar : ExchangeCalendar)
    (run : OnboardingRun ι) (stage started first : ℕ) : Prop where
  stage_eq : run.store.stage = some stage
  pos : 0 < stage
  le : stage ≤ policy.totalStages
  started_eq : run.store.stageStarted = some started
  first_eq : run.firstStarted = some first
  session_started : (calendar.session started).isSome
  session_first : (calendar.session first).isSome
  first_le : first ≤ started
  started_le : started ≤ run.clock
  waited : (stage - 1) * policy.minimumSessionsBetweenStages
    ≤ calendar.sessionsElapsed (some first) started
  noted : ∀ filled, run.store.stageFilled = some filled →
    (calendar.session filled).isSome ∧ started ≤ filled ∧ filled ≤ run.clock

/-- An open stage is reached in time. -/
def Timed (policy : InitialOnboardingPolicy) (calendar : ExchangeCalendar)
    (run : OnboardingRun ι) : Prop :=
  onboardingStatus policy run.store = .active →
    ∃ stage started first, run.Open policy calendar stage started first

variable {policy : InitialOnboardingPolicy} {run : OnboardingRun ι} {stage started first : ℕ}
  {refreshed : OnboardingStore ι}

/-- The clock goes on. -/
theorem Open.later (hopen : run.Open policy calendar stage started first) {clock : ℕ}
    (hclock : run.clock ≤ clock) :
    ({ run with clock := clock } : OnboardingRun ι).Open policy calendar stage started first :=
  { hopen with
    started_le := hopen.started_le.trans hclock
    noted := fun filled hfilled =>
      have hnoted := hopen.noted filled hfilled
      ⟨hnoted.1, hnoted.2.1, hnoted.2.2.trans hclock⟩ }

/-- A refresh notes the session it runs in, if any. -/
theorem Open.refresh (hopen : run.Open policy calendar stage started first)
    {completed : CompletedSession calendar} (hclock : run.clock ≤ completed.date)
    (hrefreshed : Refreshed policy run.store completed.date refreshed)
    (hactive : onboardingStatus policy refreshed = .active) :
    ({ run with store := refreshed, clock := completed.date } : OnboardingRun ι).Open
      policy calendar stage started first := by
  have hlater := hopen.later hclock
  cases hrefreshed with
  | idle => exact hlater
  | unfilled => exact { hlater with noted := fun _ hnone => by cases hnone }
  | noted =>
      refine { hlater with noted := ?_ }
      intro filled hfilled
      cases hbefore : run.store.stageFilled with
      | some earlier =>
          simp only [hbefore, Option.getD_some, Option.some.injEq] at hfilled
          exact hlater.noted filled (hfilled ▸ hbefore)
      | none =>
          simp only [hbefore, Option.getD_none, Option.some.injEq] at hfilled
          rw [← hfilled]
          exact ⟨completed.isSession, hlater.started_le, le_rfl⟩
  | finished => cases hactive

/-- The next stage is opened a waiting time after the note, which is no earlier than the stage
before it. -/
theorem Open.advance (hopen : run.Open policy calendar stage started first)
    {completed : CompletedSession calendar} {filled : ℕ} {reason : String}
    (hclock : run.clock = completed.date) (hlt : stage < policy.totalStages)
    (hfilled : run.store.stageFilled = some filled)
    (hwaited : policy.minimumSessionsBetweenStages
      ≤ calendar.sessionsElapsed (some filled) completed.date) :
    ({ run with store := openStage run.store (stage + 1) completed.date reason } :
      OnboardingRun ι).Open policy calendar (stage + 1) completed.date first := by
  obtain ⟨hsession, hstarted, hbefore⟩ := hopen.noted filled hfilled
  rw [hclock] at hbefore
  have hsince := ExchangeCalendar.sessionsElapsed_mono hopen.session_started hsession hstarted hbefore
  have hsplit := ExchangeCalendar.sessionsElapsed_add hopen.session_first hopen.session_started
    hopen.first_le (hstarted.trans hbefore)
  exact
    { stage_eq := rfl
      pos := Nat.succ_pos _
      le := hlt
      started_eq := rfl
      first_eq := hopen.first_eq
      session_started := completed.isSession
      session_first := hopen.session_first
      first_le := hopen.first_le.trans (hstarted.trans hbefore)
      started_le := hclock.ge
      waited := by
        have hstages := hopen.waited
        obtain ⟨before, rfl⟩ := Nat.exists_eq_succ_of_ne_zero hopen.pos.ne'
        rw [Nat.succ_sub_one] at hstages
        rw [Nat.add_sub_cancel, Nat.succ_mul, hsplit]
        omega
      noted := fun _ hnone => by cases hnone }

/-- The first stage. -/
theorem open_first (hstaged : policy.Staged) (store : OnboardingStore ι)
    (completed : CompletedSession calendar) {reason : String} :
    (⟨openStage store 1 completed.date reason, completed.date, some completed.date⟩ :
      OnboardingRun ι).Open policy calendar 1 completed.date completed.date where
  stage_eq := rfl
  pos := Nat.one_pos
  le := hstaged.totalStages_pos
  started_eq := rfl
  first_eq := rfl
  session_started := completed.isSession
  session_first := completed.isSession
  first_le := le_rfl
  started_le := le_rfl
  waited := by
    rw [Nat.sub_self, Nat.zero_mul]
    exact Nat.zero_le _
  noted := fun _ hnone => by cases hnone

/-- A restart does not open a stage. -/
theorem bootstrap_of_active {store : OnboardingStore ι}
    (hactive : onboardingStatus policy (bootstrap policy store) = .active) :
    bootstrap policy store = store := by
  unfold bootstrap at hactive ⊢
  split
  · rfl
  next hnone =>
    rw [hnone] at hactive
    dsimp only at hactive
    split_ifs at hactive
    · cases hactive
    · cases hactive
    next henabled hflat => rw [if_neg henabled, if_neg hflat]

theorem step_of_active {move : OnboardingMove ι calendar}
    (hactive : onboardingStatus policy run.store = .active) :
    run.step policy move = { run with
      store := move.apply policy run.store
      clock := move.date.getD run.clock } := by
  rw [step, if_neg fun hnot => hnot.1 hactive]

/-- A call leaves an open stage in time. -/
theorem Timed.step (hstaged : policy.Staged) (htimed : run.Timed policy calendar)
    {move : OnboardingMove ι calendar} (hclock : run.Chronological move) :
    (run.step policy move).Timed policy calendar := by
  intro hactive
  cases move with
  | restart =>
      -- a restart that leaves the onboarding open has found it open
      have hsame : bootstrap policy run.store = run.store := bootstrap_of_active hactive
      have hbefore : onboardingStatus policy run.store = .active := hsame ▸ hactive
      rw [step_of_active hbefore, OnboardingMove.apply, hsame]
      exact htimed hbefore
  | start completed =>
      rcases startOnboarding_cases policy calendar run.store completed.date with
        hsame | ⟨-, -, hbefore, -, hopened⟩
      · have hbefore : onboardingStatus policy run.store = .active := by
          rw [← hsame]
          exact hactive
        obtain ⟨stage, started, first, hopen⟩ := htimed hbefore
        rw [step_of_active hbefore, OnboardingMove.apply, hsame]
        exact ⟨stage, started, first, hopen.later (hclock _ rfl)⟩
      · -- the first stage: from here on the sessions are counted
        refine ⟨1, completed.date, completed.date, ?_⟩
        rw [OnboardingRun.step, if_pos ⟨hbefore, hactive⟩, OnboardingMove.apply, hopened]
        exact open_first hstaged _ completed
  | advance completed =>
      have hadvanced := advanceOnboarding_advanced policy calendar run.store completed.date
      replace hactive : onboardingStatus policy
        (advanceOnboarding policy calendar run.store completed.date).1 = .active := hactive
      have hbefore := hadvanced.active_before hactive
      obtain ⟨stage, started, first, hopen⟩ := htimed hbefore
      rw [step_of_active hbefore, OnboardingMove.apply]
      generalize (advanceOnboarding policy calendar run.store completed.date).1 = after
        at hadvanced hactive ⊢
      cases hadvanced with
      | kept => exact ⟨stage, started, first, hopen.later (hclock _ rfl)⟩
      | refreshed hrefreshed =>
          exact ⟨stage, started, first, hopen.refresh (hclock _ rfl) hrefreshed hactive⟩
      | opened hrefreshed hopened hstage hlt hfilled hnoted hwaited =>
          -- the refresh comes first: its note is the one the waiting time is counted from
          have hrefresh := hopen.refresh (hclock _ rfl) hrefreshed hopened
          rw [show _ = some stage from hrefresh.stage_eq, Option.getD_some] at hstage
          rw [← hstage] at hlt ⊢
          exact ⟨stage + 1, completed.date, first, hrefresh.advance rfl hlt hnoted hwaited⟩
  | allocated completed =>
      rcases afterAllocation_refreshed policy run.store completed.date with hrefreshed | hsame
      · have hbefore := hrefreshed.active_before hactive
        obtain ⟨stage, started, first, hopen⟩ := htimed hbefore
        rw [step_of_active hbefore, OnboardingMove.apply]
        exact ⟨stage, started, first, hopen.refresh (hclock _ rfl) hrefreshed hactive⟩
      · have hbefore : onboardingStatus policy run.store = .active := by
          rw [← hsame]
          exact hactive
        obtain ⟨stage, started, first, hopen⟩ := htimed hbefore
        rw [step_of_active hbefore, OnboardingMove.apply, hsame]
        exact ⟨stage, started, first, hopen.later (hclock _ rfl)⟩
  | elsewhere repo signals =>
      -- a foreign write leaves every key that `Open` reads
      have hbefore : onboardingStatus policy run.store = .active := hactive
      obtain ⟨stage, started, first, hopen⟩ := htimed hbefore
      rw [step_of_active hbefore]
      exact ⟨stage, started, first, { hopen with }⟩
  | handOver => cases hactive

end OnboardingRun

/-- In every run from a database that has never been onboarded, with a clock that does not run
backwards, and as long as the staging is open, stage `k` is open only when `k - 1` waiting times have passed since the first one was
opened; so the account is never exposed more than the backtest is after as many sessions. -/
theorem onboarding_within_backtest {raw : RawOnboarding} {policy : InitialOnboardingPolicy}
    (hloaded : InitialOnboardingPolicy.fromConfig raw = .ok policy) {store : OnboardingStore ι}
    (hfresh : store.repo.system.onboardingStatus = none)
    {moves : List (OnboardingMove ι calendar)} {run : OnboardingRun ι}
    (hrun : run = moves.foldl (OnboardingRun.step policy) { store := store })
    (hclock : Run.Along (OnboardingRun.step policy) OnboardingRun.Chronological
      { store := store } moves)
    (hactive : onboardingStatus policy run.store = .active) :
    ∃ first stage fraction, run.firstStarted = some first ∧ run.store.stage = some stage ∧
      (stage - 1) * policy.minimumSessionsBetweenStages
        ≤ calendar.sessionsElapsed (some first) run.clock ∧
      effectiveFraction policy run.store = .ok fraction ∧
      ∀ (target : Weights) (symbol : AllocationSymbol), 0 ≤ target symbol →
        target symbol * fraction ≤ PortfolioBacktestEngine.applyInitialOnboarding policy target
          (calendar.sessionsElapsed (some first) run.clock) symbol := by
  have hstaged := InitialOnboardingPolicy.fromConfig_staged hloaded
  have htimed : run.Timed policy calendar := by
    rw [hrun]
    refine hclock.invariant (fun _ _ htimed hchronological => htimed.step hstaged hchronological) ?_
    intro hactive
    rw [onboardingStatus_eq_active, hfresh] at hactive
    cases hactive
  obtain ⟨stage, started, first, hopen⟩ := htimed hactive
  -- The waits of the stages add up, from the first stage to now.
  have hsplit := ExchangeCalendar.sessionsElapsed_add hopen.session_first hopen.session_started
    hopen.first_le hopen.started_le
  have hwaited := hopen.waited
  have hpassed : (stage - 1) * policy.minimumSessionsBetweenStages
      ≤ calendar.sessionsElapsed (some first) run.clock := by omega
  refine ⟨first, stage, policy.fractionForStage stage, hopen.first_eq, hopen.stage_eq, hpassed,
    effectiveFraction_of_active hactive hopen.stage_eq hopen.pos hopen.le, ?_⟩
  intro target symbol htarget
  unfold PortfolioBacktestEngine.applyInitialOnboarding
  split
  · -- A policy that is off weighs every target in full.
    exact mul_le_of_le_one_right htarget (hstaged.fractionForStage_le_one hopen.pos hopen.le)
  · refine mul_le_mul_of_nonneg_left ?_ htarget
    split
    next hnone => exact hstaged.fractionForStage_mono hopen.pos hopen.le le_rfl
    next hsome =>
      have hpos : 0 < policy.minimumSessionsBetweenStages := Nat.pos_of_ne_zero hsome
      have hstage := (Nat.le_div_iff_mul_le hpos).mpr hpassed
      exact hstaged.fractionForStage_mono hopen.pos (le_min (by omega) hopen.le) (min_le_right _ _)

open FirstDay in
theorem onboarding_within_backtest_first_day :
    ∃ first stage fraction,
      (moves.foldl (OnboardingRun.step policy) { store := store }).firstStarted = some first ∧
      (moves.foldl (OnboardingRun.step policy) { store := store }).store.stage = some stage ∧
      (stage - 1) * 5 ≤ ExchangeCalendar.oneSession.sessionsElapsed (some first)
        (moves.foldl (OnboardingRun.step policy) { store := store }).clock ∧
      effectiveFraction policy (moves.foldl (OnboardingRun.step policy) { store := store }).store
        = .ok fraction ∧
      ∀ (target : Weights) (symbol : AllocationSymbol), 0 ≤ target symbol →
        target symbol * fraction ≤ PortfolioBacktestEngine.applyInitialOnboarding policy target
          (ExchangeCalendar.oneSession.sessionsElapsed (some first)
            (moves.foldl (OnboardingRun.step policy) { store := store }).clock) symbol := by
  refine onboarding_within_backtest loaded rfl rfl ?_ (by decide +kernel)
  refine ⟨?_, ?_, ?_, ?_, trivial⟩
  · rintro _ ⟨⟩
  · rintro _ ⟨⟩
    decide
  · rintro _ ⟨⟩
    decide +kernel
  · rintro _ ⟨⟩
    decide +kernel

end JdHoldings
