import Mathlib.Data.List.Induction
import JdHoldings.Application.PositionManager
import JdHoldings.Library.Runs

/-!
# How long SAFE_MODE lasts

The threads of the services share the rows of `positions` and the SAFE_MODE flag of
the portfolio.  Any thread may read a row for any call at any time and write it later
(`SafetyMove`); a crash makes the threads forget what they were doing, and leaves the
rows and the flag.

The flag is lowered by a resume alone, after its reconciliation has come back clean.
A row is another matter.  `apply_buy_fill` insists on a state it expects, and the
places that enter SAFE_MODE keep it.  Four others take the state they have just read
as the expected one and write over whatever it is (`Endangers`):

* `_restore_unfilled_buy`,
* `execute`, when the submission has failed, and when it has ended without a fill,
* `apply_sell_fill`, when the fill sells the position out or completes TP1.

In a run where none of them writes on a row in SAFE_MODE, SAFE_MODE lasts until a
resume (`safe_mode_until_resume`).
-/

namespace JdHoldings

/-! ## What one call does to SAFE_MODE -/

theorem transitionPosition_ok {transition : Transition} {expectedVersion : ℕ}
    {current next : Versioned PositionRow}
    (hok : transitionPosition transition expectedVersion current = .ok next) :
    current.value.state = transition.expectedState ∧ current.version = expectedVersion ∧
      next.value.state = transition.newState ∧ next.version = current.version + 1 := by
  unfold transitionPosition at hok
  split at hok
  · cases hok
  · rename_i hstate
    split at hok
    · cases hok
    · rename_i hversion
      obtain rfl := Except.ok.inj hok
      exact ⟨not_not.mp hstate, not_not.mp hversion, rfl, rfl⟩

/-- The fill sells the position out, or completes TP1. -/
def PositionManager.EndsLeg (order : DirectOrder) (plan : TpPlan) (position : PositionRow) : Prop :=
  ∃ leg, tpLeg order.purpose = some leg ∧
    plan.filledQty leg ≤ legFilled order plan leg ∧
    legFilled order plan leg - plan.filledQty leg ≤ position.quantity ∧
    ¬(order.purpose = .tp1 ∧ legFilled order plan leg < plan.targetQty leg) ∧
    (order.purpose = .tp1 ∨ position.quantity = legFilled order plan leg - plan.filledQty leg)

namespace PositionCall

/-- The call writes over SAFE_MODE. -/
def Endangers (position : PositionRow) : PositionCall → Prop
  | .applySellFill order plan =>
      order.applied = false ∧ order.filledQty ≠ 0 ∧
        ∃ active, plan = some active ∧ PositionManager.EndsLeg order active position
  | .restoreUnfilledBuy purpose => baseStateByPurpose purpose ≠ none
  | .submissionFailed _ stored => stored = none ∨ stored = some .rejected
  | .orderNotFilled _ status filledQuantity =>
      (status = .exact .rejected ∨ status = .exact .canceled) ∧ filledQuantity = 0
  | _ => False

end PositionCall

section Calls

variable {config : StrategyConfig} {capitalPerSymbol : Decimal} {position : PositionRow}

/-- A booked BUY comes from a state that waits for it. -/
theorem PositionManager.applyBuyFill_state {order : DirectOrder} {signal : EntrySignal}
    {fresh : FreshIds} {transition : Transition}
    (hok : applyBuyFill config capitalPerSymbol order signal fresh position = .ok (some transition)) :
    position.state ≠ .safeMode := by
  unfold applyBuyFill at hok
  split at hok
  · cases hok
  · split at hok
    · cases hok
    · obtain ⟨leg, -, hok⟩ := Except.bind_eq_ok.mp hok
      obtain ⟨_, hstate, -⟩ := Except.bind_eq_ok.mp hok
      have hwaiting : position.state = waitingFillByActionStage leg := not_not.mp (raiseIf_eq_ok.mp hstate)
      rw [hwaiting]
      exact waitingFillByActionStage_ne_safeMode leg

/-- What a sell fill makes of SAFE_MODE. -/
theorem PositionManager.sellTransition_newState {order : DirectOrder} {plan : TpPlan} {leg : TpLeg}
    (hsafe : position.state = .safeMode)
    (hdelta : legFilled order plan leg - plan.filledQty leg ≤ position.quantity) :
    (sellTransition capitalPerSymbol order plan leg position).newState ≠ .safeMode ↔
      ¬(order.purpose = .tp1 ∧ legFilled order plan leg < plan.targetQty leg) ∧
        (order.purpose = .tp1 ∨
          position.quantity = legFilled order plan leg - plan.filledQty leg) := by
  simp only [sellTransition]
  split
  · rename_i hpartial
    simp [hsafe, hpartial]
  · rename_i hcomplete
    split
    · rename_i hzero
      have hsold : position.quantity = legFilled order plan leg - plan.filledQty leg := by omega
      simp [hcomplete, hsold]
    · rename_i hleft
      have hkept : position.quantity ≠ legFilled order plan leg - plan.filledQty leg := by omega
      split
      · rename_i htp1
        simp [htp1] at hcomplete ⊢
        omega
      · rename_i htp2
        simp [htp2, hsafe, hkept]

/-- The checks of `apply_sell_fill`. -/
theorem PositionManager.applySellFill_ok_iff {order : DirectOrder} {plan : Option TpPlan}
    {transition : Transition} :
    PositionCall.transition config capitalPerSymbol position (.applySellFill order plan)
        = .ok (some transition) ↔
      order.applied = false ∧ order.filledQty ≠ 0 ∧ ∃ active leg, plan = some active ∧
        tpLeg order.purpose = some leg ∧ active.filledQty leg ≤ legFilled order active leg ∧
        legFilled order active leg - active.filledQty leg ≤ position.quantity ∧
        transition = sellTransition capitalPerSymbol order active leg position := by
  constructor
  · intro hok
    simp only [PositionCall.transition] at hok
    cases hbooked : applySellFill capitalPerSymbol order plan position with
    | error error =>
        rw [hbooked] at hok
        cases hok
    | ok booked =>
        rw [hbooked] at hok
        unfold applySellFill at hbooked
        split at hbooked
        · obtain rfl := Except.ok.inj hbooked
          cases hok
        · rename_i hopen
          push Not at hopen
          split at hbooked
          · cases hbooked
          · rename_i active
            split at hbooked
            · cases hbooked
            · rename_i leg hleg
              obtain ⟨_, hprior, hbooked⟩ := Except.bind_eq_ok.mp hbooked
              obtain ⟨_, hheld, hbooked⟩ := Except.bind_eq_ok.mp hbooked
              obtain rfl := Except.ok.inj hbooked
              have hsame := Option.some.inj (Except.ok.inj hok)
              exact ⟨Bool.eq_false_iff.mpr hopen.1, hopen.2, active, leg, rfl, hleg,
                Nat.le_of_not_lt (raiseIf_eq_ok.mp hprior), Nat.le_of_not_lt (raiseIf_eq_ok.mp hheld),
                hsame.symm⟩
  · rintro ⟨happlied, hfilled, active, leg, rfl, hleg, hprior, hheld, rfl⟩
    have hprior' : ¬legFilled order active leg < active.filledQty leg := Nat.not_lt.mpr hprior
    have hheld' : ¬position.quantity < legFilled order active leg - active.filledQty leg :=
      Nat.not_lt.mpr hheld
    simp [PositionCall.transition, applySellFill, happlied, hfilled, hleg, raiseIf, hprior', hheld',
      Except.map, bind, Except.bind]
    rfl

/-- Exactly the calls named by `Endangers` take a row out of SAFE_MODE, besides a
resume. -/
theorem PositionCall.endangers_iff {call : PositionCall} (hsafe : position.state = .safeMode)
    (hresume : call ≠ .recoverSafeMode) :
    call.Endangers position ↔ ∃ transition,
      call.transition config capitalPerSymbol position = .ok (some transition) ∧
        transition.newState ≠ .safeMode := by
  cases call with
  | applyBuyFill order signal fresh =>
      -- A BUY fill raises in SAFE_MODE.
      refine ⟨False.elim, ?_⟩
      rintro ⟨transition, hok, -⟩
      exact PositionManager.applyBuyFill_state hok hsafe
  | applySellFill order plan =>
      constructor
      · rintro ⟨happlied, hfilled, active, rfl, leg, hleg, hprior, hheld, hends⟩
        exact ⟨_, PositionManager.applySellFill_ok_iff.mpr
          ⟨happlied, hfilled, active, leg, rfl, hleg, hprior, hheld, rfl⟩,
          (PositionManager.sellTransition_newState hsafe hheld).mpr hends⟩
      · rintro ⟨transition, hok, hleaves⟩
        obtain ⟨happlied, hfilled, active, leg, rfl, hleg, hprior, hheld, rfl⟩ :=
          PositionManager.applySellFill_ok_iff.mp hok
        exact ⟨happlied, hfilled, active, rfl, leg, hleg, hprior, hheld,
          (PositionManager.sellTransition_newState hsafe hheld).mp hleaves⟩
  | restoreUnfilledBuy purpose =>
      -- The base state of a purpose is never SAFE_MODE.
      simp only [Endangers, PositionCall.transition]
      cases hbase : baseStateByPurpose purpose with
      | none => simp
      | some base => simp [baseStateByPurpose_ne_safeMode hbase]
  | submissionStarted leg =>
      refine ⟨False.elim, ?_⟩
      rintro ⟨transition, hok, -⟩
      have hne : position.state ≠ baseStateByActionStage leg := by
        rw [hsafe]
        exact (baseStateByActionStage_ne_safeMode leg).symm
      simp only [PositionCall.transition, if_pos hne] at hok
      cases hok
  | submissionFailed leg stored =>
      -- These two write a base state in one of their branches.
      simp only [Endangers, PositionCall.transition]
      split
      · rename_i hfailed
        simp [hfailed, baseStateByActionStage_ne_safeMode leg]
      · rename_i hstored
        simp [hstored]
  | orderNotFilled leg status filledQuantity =>
      simp only [Endangers, PositionCall.transition]
      split
      · rename_i hended
        simp [hended, baseStateByActionStage_ne_safeMode leg]
      · rename_i hgoing
        simp [hgoing]
  | armRebuy recovered => simp [Endangers, PositionCall.transition, hsafe]
  | enterSafeMode => simp [Endangers, PositionCall.transition, hsafe]
  | recoverSafeMode => exact absurd rfl hresume

/-- A write of a call that goes through. -/
theorem PositionCall.write_eq_some {call : PositionCall} {seen current next : Versioned PositionRow}
    (hwrite : call.write config capitalPerSymbol seen current = some next) :
    ∃ transition, call.transition config capitalPerSymbol seen.value = .ok (some transition) ∧
      transitionPosition transition seen.version current = .ok next := by
  unfold PositionCall.write at hwrite
  split at hwrite
  · rename_i transition htransition
    refine ⟨transition, htransition, ?_⟩
    cases hok : transitionPosition transition seen.version current with
    | error error =>
        rw [hok] at hwrite
        cases hwrite
    | ok written =>
        rw [hok] at hwrite
        rw [Option.some.inj hwrite]
  · cases hwrite

theorem PositionCall.write_checked :
    Optimistic.Checked (PositionCall.write config capitalPerSymbol) := by
  intro call seen current next hwrite
  obtain ⟨transition, -, hok⟩ := PositionCall.write_eq_some hwrite
  obtain ⟨-, hversion, -, hnext⟩ := transitionPosition_ok hok
  exact ⟨hversion, hnext⟩

end Calls

/-! ## The threads -/

/-- Where a resume stands. -/
structure Resuming where
  /-- `reconciliation.run()` has returned without mismatches. -/
  clean : Bool := false
  inspected : EnabledSymbol → Option OperatorSafetyService.Recovery := fun _ => none
  /-- The flag as `_recover_clean_reconciliation_safe_mode` has read it. -/
  sawFlag : Option Bool := none

/-- Every symbol was looked at after the reconciliation, and none blocks the recovery. -/
def Resuming.mayRecover (resuming : Resuming) : Bool :=
  resuming.clean &&
    [EnabledSymbol.tqqq, .soxl].all fun symbol =>
      (resuming.inspected symbol).any fun recovery => decide (recovery ≠ .blocked)

theorem Resuming.clean_of_mayRecover {resuming : Resuming} (hmay : resuming.mayRecover = true) :
    resuming.clean = true := by
  unfold Resuming.mayRecover at hmay
  exact (Bool.and_eq_true_iff.mp hmay).1

/-- The rows, the flag, and where the threads stand. -/
structure SafetyWorld (τ : Type) where
  table : Optimistic τ EnabledSymbol PositionRow PositionCall
  portfolioSafeMode : Option Bool := none
  resuming : τ → Option Resuming := fun _ => none

/-- What a thread does next. -/
inductive SafetyMove (τ : Type) where
  /-- `get_position` of a call. -/
  | read (t : τ) (symbol : EnabledSymbol) (call : PositionCall)
  /-- `transition_position` of the call. -/
  | transition (t : τ)
  /-- `set_system_value("v322_portfolio_safe_mode", "1")`, in five places. -/
  | raiseFlag (t : τ)
  /-- `resume` begins. -/
  | resume (t : τ)
  /-- Its `reconciliation.run()` returns. -/
  | reconciled (t : τ) (mismatches : Bool)
  /-- A step of the loop of `_recover_clean_reconciliation_safe_mode`. -/
  | inspect (t : τ) (symbol : EnabledSymbol) (planned : Bool)
  | readFlag (t : τ)
  /-- `set_system_value("v322_portfolio_safe_mode", "0")`. -/
  | lowerFlag (t : τ)
  /-- The call ends, or raises. -/
  | leave (t : τ)
  | crash
deriving DecidableEq

namespace SafetyWorld

variable {τ : Type} [DecidableEq τ]

/-- What the inspection of a row finds. -/
def inspection (position : PositionRow) (planned : Bool) : OperatorSafetyService.Recovery :=
  if position.state ≠ .safeMode then .running
  else if position.quantity ≠ 0 ∨ planned = true then .blocked else .recoverable

/-- A resume may recover a row only after its inspection. -/
def mayCall (world : SafetyWorld τ) (t : τ) (symbol : EnabledSymbol) (call : PositionCall) : Bool :=
  decide (call ≠ .recoverSafeMode) ||
    (world.resuming t).any fun resuming =>
      resuming.mayRecover && decide (resuming.inspected symbol = some .recoverable)

/-- The thread stands at this point of a resume, or outside any. -/
def setResuming (world : SafetyWorld τ) (t : τ) (resuming : Option Resuming) : SafetyWorld τ :=
  { world with resuming := Function.update world.resuming t resuming }

/-- The thread drops its call. -/
def drop (world : SafetyWorld τ) (t : τ) : SafetyWorld τ :=
  { world with table := world.table.forget t }

variable (config : StrategyConfig) (capitalPerSymbol : Decimal)

/-- One move.  A move a thread cannot make changes nothing. -/
def step (world : SafetyWorld τ) : SafetyMove τ → SafetyWorld τ
  | .read t symbol call =>
      if world.mayCall t symbol call = true then
        { world with table := world.table.read t symbol call }
      else world
  | .transition t =>
      { world with
        table := world.table.commit (PositionCall.write config capitalPerSymbol) t }
  | .raiseFlag _ => { world with portfolioSafeMode := some true }
  | .resume t => (world.drop t).setResuming t (some {})
  | .reconciled t mismatches =>
      match world.resuming t with
      | none => world
      | some _ =>
          if mismatches = true then (world.drop t).setResuming t none
          else (world.drop t).setResuming t (some { clean := true })
  | .inspect t symbol planned =>
      match world.resuming t with
      | none => world
      | some resuming =>
          world.setResuming t (some { resuming with
            inspected := Function.update resuming.inspected symbol
              (some (inspection (world.table.row symbol).value planned)) })
  | .readFlag t =>
      match world.resuming t with
      | none => world
      | some resuming =>
          world.setResuming t (some { resuming with sawFlag := world.portfolioSafeMode })
  | .lowerFlag t =>
      match world.resuming t with
      | none => world
      | some resuming =>
          if resuming.mayRecover = true ∧ resuming.sawFlag = some true then
            { world with portfolioSafeMode := some false }
          else world
  | .leave t => (world.drop t).setResuming t none
  | .crash => { world with table := world.table.crash, resuming := fun _ => none }

/-- The world after some moves. -/
def run (world : SafetyWorld τ) (moves : List (SafetyMove τ)) : SafetyWorld τ :=
  moves.foldl (step config capitalPerSymbol) world

/-- No thread is in the middle of anything. -/
structure AtRest (world : SafetyWorld τ) : Prop where
  pending : ∀ t, world.table.pending t = none
  resuming : ∀ t, world.resuming t = none

/-- The state of a position. -/
def state (world : SafetyWorld τ) (symbol : EnabledSymbol) : PositionState :=
  (world.table.row symbol).value.state

/-- The thread is about to take the row out of SAFE_MODE in a resume. -/
def Recovers (world : SafetyWorld τ) (t : τ) (symbol : EnabledSymbol) : Prop :=
  ∃ seen, world.table.pending t = some ⟨symbol, seen, .recoverSafeMode⟩

/-- No transition writes over a row in SAFE_MODE that the thread has read in SAFE_MODE. -/
def RespectsSafeMode (world : SafetyWorld τ) : SafetyMove τ → Prop
  | .transition t => ∀ pending, world.table.pending t = some pending →
      pending.seen = world.table.row pending.key →
        pending.seen.value.state = .safeMode → ¬pending.call.Endangers pending.seen.value
  | _ => True

end SafetyWorld

/-- The move ends what a resume of the thread has found out. -/
def SafetyMove.Ends {τ : Type} (t : τ) (move : SafetyMove τ) : Prop :=
  move = .resume t ∨ move = .reconciled t true ∨ move = .leave t ∨ move = .crash

/-- The thread is in a resume. -/
def InResume {τ : Type} (t : τ) (moves : List (SafetyMove τ)) : Prop :=
  ∃ front back, moves = front ++ .resume t :: back ∧ ∀ move ∈ back, ¬move.Ends t

/-- The thread is in a resume, and its reconciliation has come back clean. -/
def CleanlyReconciled {τ : Type} (t : τ) (moves : List (SafetyMove τ)) : Prop :=
  ∃ front back, moves = front ++ .reconciled t false :: back ∧ InResume t front ∧
    ∀ move ∈ back, ¬move.Ends t

section History

variable {τ : Type} {t : τ} {moves : List (SafetyMove τ)} {move : SafetyMove τ}

theorem InResume.snoc (hresume : InResume t moves) (hmove : ¬move.Ends t) :
    InResume t (moves ++ [move]) := by
  obtain ⟨front, back, rfl, hback⟩ := hresume
  refine ⟨front, back ++ [move], by simp, ?_⟩
  intro other hother
  rcases List.mem_append.mp hother with hmem | hmem
  · exact hback other hmem
  · rw [List.mem_singleton.mp hmem]
    exact hmove

theorem CleanlyReconciled.snoc (hclean : CleanlyReconciled t moves) (hmove : ¬move.Ends t) :
    CleanlyReconciled t (moves ++ [move]) := by
  obtain ⟨front, back, rfl, hresume, hback⟩ := hclean
  refine ⟨front, back ++ [move], by simp, hresume, ?_⟩
  intro other hother
  rcases List.mem_append.mp hother with hmem | hmem
  · exact hback other hmem
  · rw [List.mem_singleton.mp hmem]
    exact hmove

end History

namespace SafetyWorld

variable {τ : Type} [DecidableEq τ] {config : StrategyConfig} {capitalPerSymbol : Decimal}
  {world : SafetyWorld τ}

/-! ## What one move does -/

section Fields

variable (t u : τ) (resuming : Option Resuming)

@[simp] theorem setResuming_table : (world.setResuming t resuming).table = world.table := rfl

@[simp] theorem setResuming_self : (world.setResuming t resuming).resuming t = resuming :=
  Function.update_self ..

@[simp] theorem drop_resuming : (world.drop t).resuming = world.resuming := rfl

@[simp] theorem drop_table : (world.drop t).table = world.table.forget t := rfl

end Fields

theorem setResuming_of_ne {t u : τ} (hne : u ≠ t) (resuming : Option Resuming) :
    (world.setResuming t resuming).resuming u = world.resuming u :=
  Function.update_of_ne hne _ _

/-- How a move leaves a thread in a resume: it starts one, its reconciliation comes
back clean, or it goes on with it. -/
theorem step_resuming {move : SafetyMove τ} {t : τ} {after : Resuming}
    (hafter : (world.step config capitalPerSymbol move).resuming t = some after) :
    (move = .resume t ∧ after = {}) ∨
      (move = .reconciled t false ∧ ∃ before, world.resuming t = some before) ∨
      (¬move.Ends t ∧ ∃ before, world.resuming t = some before ∧ after.clean = before.clean) := by
  -- Most moves leave the entry of the thread as it was.
  have hkept : ∀ {move : SafetyMove τ}, ¬move.Ends t → world.resuming t = some after →
      (move = .resume t ∧ after = {}) ∨
        (move = .reconciled t false ∧ ∃ before, world.resuming t = some before) ∨
        (¬move.Ends t ∧ ∃ before, world.resuming t = some before ∧ after.clean = before.clean) :=
    fun hmove hsame => Or.inr (Or.inr ⟨hmove, after, hsame, rfl⟩)
  cases move with
  | read u symbol call =>
      refine hkept (by simp [SafetyMove.Ends]) ?_
      simp only [step] at hafter
      split at hafter <;> exact hafter
  | transition u => exact hkept (by simp [SafetyMove.Ends]) hafter
  | raiseFlag u => exact hkept (by simp [SafetyMove.Ends]) hafter
  | resume u =>
      -- A resume starts an empty entry.
      simp only [step] at hafter
      by_cases hu : t = u
      · subst hu
        rw [setResuming_self] at hafter
        exact Or.inl ⟨rfl, (Option.some.inj hafter).symm⟩
      · rw [setResuming_of_ne hu] at hafter
        exact hkept (by simpa [SafetyMove.Ends] using Ne.symm hu) hafter
  | reconciled u mismatches =>
      simp only [step] at hafter
      cases hbefore : world.resuming u with
      | none =>
          rw [hbefore] at hafter
          by_cases hu : t = u
          · subst hu
            rw [hbefore] at hafter
            cases hafter
          · exact hkept (by simp [SafetyMove.Ends, Ne.symm hu]) hafter
      | some before =>
          simp only [hbefore] at hafter
          by_cases hu : t = u
          · subst hu
            -- A mismatch ends the resume, a clean reconciliation only drops what it knew.
            cases mismatches with
            | true =>
                simp only [if_true, setResuming_self] at hafter
                cases hafter
            | false => exact Or.inr (Or.inl ⟨rfl, before, hbefore⟩)
          · refine hkept (by simp [SafetyMove.Ends, Ne.symm hu]) ?_
            split at hafter <;> exact (setResuming_of_ne hu _).symm.trans hafter
  | inspect u symbol planned =>
      -- These two write what was read into the entry, and nothing into `clean`.
      simp only [step] at hafter
      cases hbefore : world.resuming u with
      | none =>
          rw [hbefore] at hafter
          exact hkept (by simp [SafetyMove.Ends]) hafter
      | some before =>
          simp only [hbefore] at hafter
          by_cases hu : t = u
          · subst hu
            rw [setResuming_self] at hafter
            obtain rfl := Option.some.inj hafter
            exact Or.inr (Or.inr ⟨by simp [SafetyMove.Ends], before, hbefore, rfl⟩)
          · rw [setResuming_of_ne hu] at hafter
            exact hkept (by simp [SafetyMove.Ends]) hafter
  | readFlag u =>
      simp only [step] at hafter
      cases hbefore : world.resuming u with
      | none =>
          rw [hbefore] at hafter
          exact hkept (by simp [SafetyMove.Ends]) hafter
      | some before =>
          simp only [hbefore] at hafter
          by_cases hu : t = u
          · subst hu
            rw [setResuming_self] at hafter
            obtain rfl := Option.some.inj hafter
            exact Or.inr (Or.inr ⟨by simp [SafetyMove.Ends], before, hbefore, rfl⟩)
          · rw [setResuming_of_ne hu] at hafter
            exact hkept (by simp [SafetyMove.Ends]) hafter
  | lowerFlag u =>
      -- The flag is no part of the entry.
      refine hkept (by simp [SafetyMove.Ends]) ?_
      simp only [step] at hafter
      split at hafter
      · exact hafter
      · split at hafter <;> exact hafter
  | leave u =>
      simp only [step] at hafter
      by_cases hu : t = u
      · subst hu
        rw [setResuming_self] at hafter
        cases hafter
      · rw [setResuming_of_ne hu] at hafter
        exact hkept (by simpa [SafetyMove.Ends] using Ne.symm hu) hafter
  | crash => cases hafter

/-- A resume that goes on is one the moves have begun, and what it knows they have told
it. -/
theorem resuming_of_run (hrest : world.AtRest) (moves : List (SafetyMove τ)) {t : τ}
    {resuming : Resuming}
    (hresuming : (world.run config capitalPerSymbol moves).resuming t = some resuming) :
    InResume t moves ∧ (resuming.clean = true → CleanlyReconciled t moves) := by
  induction moves using List.reverseRecOn generalizing resuming with
  | nil =>
      rw [run, List.foldl_nil, hrest.resuming t] at hresuming
      cases hresuming
  | append_singleton moves move ih =>
      rw [run, List.foldl_append] at hresuming
      rcases step_resuming hresuming with ⟨rfl, rfl⟩ | ⟨rfl, before, hbefore⟩ |
        ⟨hmove, before, hbefore, hsame⟩
      · refine ⟨⟨moves, [], rfl, by simp⟩, ?_⟩
        intro hclean
        cases hclean
      · obtain ⟨hin, -⟩ := ih hbefore
        exact ⟨hin.snoc (by simp [SafetyMove.Ends]), fun _ => ⟨moves, [], rfl, hin, by simp⟩⟩
      · obtain ⟨hin, hclean⟩ := ih hbefore
        refine ⟨hin.snoc hmove, ?_⟩
        intro hafter
        exact (hclean (hsame ▸ hafter)).snoc hmove

/-! ## The invariant -/

/-- Whoever has read the current version of a row has read the row, and only a resume
that was reconciled recovers one. -/
structure Orderly (world : SafetyWorld τ) : Prop where
  fresh : world.table.Fresh
  recovers : ∀ t pending, world.table.pending t = some pending →
    pending.call = .recoverSafeMode →
      ∃ resuming, world.resuming t = some resuming ∧ resuming.clean = true

omit [DecidableEq τ] in
theorem AtRest.orderly (hrest : world.AtRest) : world.Orderly := by
  constructor
  · intro t pending hpending
    rw [hrest.pending t] at hpending
    cases hpending
  · intro t pending hpending
    rw [hrest.pending t] at hpending
    cases hpending

/-- A thread that drops its call may stand anywhere. -/
theorem Orderly.restart (horderly : world.Orderly) (t : τ) (resuming : Option Resuming) :
    ((world.drop t).setResuming t resuming).Orderly := by
  constructor
  · exact horderly.fresh.forget t
  · intro u pending hpending hcall
    obtain ⟨hne, hbefore⟩ := Optimistic.forget_pending hpending
    rw [setResuming_of_ne hne]
    exact horderly.recovers u pending hbefore hcall

/-- A resume may take notes. -/
theorem Orderly.note (horderly : world.Orderly) {t : τ} {before after : Resuming}
    (hbefore : world.resuming t = some before) (hclean : after.clean = before.clean) :
    (world.setResuming t (some after)).Orderly := by
  constructor
  · exact horderly.fresh
  · intro u pending hpending hcall
    obtain ⟨resuming, hresuming, hreconciled⟩ := horderly.recovers u pending hpending hcall
    by_cases hu : u = t
    · subst hu
      obtain rfl := Option.some.inj (hbefore.symm.trans hresuming)
      exact ⟨after, setResuming_self u _, hclean.trans hreconciled⟩
    · exact ⟨resuming, (setResuming_of_ne hu _).trans hresuming, hreconciled⟩

theorem Orderly.step (horderly : world.Orderly) (move : SafetyMove τ) :
    (world.step config capitalPerSymbol move).Orderly := by
  cases move with
  | read t symbol call =>
      simp only [SafetyWorld.step]
      split
      · rename_i hmay
        constructor
        · exact horderly.fresh.read t symbol call
        · intro u pending hpending hcall
          by_cases hu : u = t
          · subst hu
            rw [Optimistic.read_self] at hpending
            obtain rfl := Option.some.inj hpending
            obtain rfl : call = .recoverSafeMode := hcall
            -- A resume recovers only rows it has inspected after its reconciliation.
            simp only [mayCall, ne_eq, not_true_eq_false, decide_false, Bool.false_or] at hmay
            obtain ⟨resuming, hresuming, hrecovers⟩ := (Option.any_eq_true _ _).mp hmay
            exact ⟨resuming, hresuming,
              Resuming.clean_of_mayRecover (Bool.and_eq_true_iff.mp hrecovers).1⟩
          · have hother : world.table.pending u = some pending := by
              rw [← hpending]
              exact (Function.update_of_ne hu _ _).symm
            exact horderly.recovers u pending hother hcall
      · exact horderly
  | transition t =>
      -- A commit closes a call and opens none.
      constructor
      · exact horderly.fresh.commit PositionCall.write_checked t
      · intro u pending hpending hcall
        exact horderly.recovers u pending (Optimistic.commit_pending hpending).2 hcall
  | raiseFlag t => exact ⟨horderly.fresh, horderly.recovers⟩
  | resume t => exact horderly.restart t _
  | reconciled t mismatches =>
      simp only [SafetyWorld.step]
      split
      · exact horderly
      · split <;> exact horderly.restart t _
  | inspect t symbol planned =>
      simp only [SafetyWorld.step]
      split
      · exact horderly
      · rename_i before hbefore
        exact horderly.note hbefore rfl
  | readFlag t =>
      simp only [SafetyWorld.step]
      split
      · exact horderly
      · rename_i before hbefore
        exact horderly.note hbefore rfl
  | lowerFlag t =>
      simp only [SafetyWorld.step]
      split
      · exact horderly
      · split
        · exact ⟨horderly.fresh, horderly.recovers⟩
        · exact horderly
  | leave t => exact horderly.restart t none
  | crash =>
      -- Nobody is in the middle of a call after a crash.
      refine ⟨Optimistic.fresh_crash _, ?_⟩
      intro t pending hpending
      cases hpending

theorem Orderly.run (horderly : world.Orderly) (moves : List (SafetyMove τ)) :
    (world.run config capitalPerSymbol moves).Orderly := by
  induction moves generalizing world with
  | nil => exact horderly
  | cons move moves ih => exact ih (horderly.step move)

/-! ## SAFE_MODE under one move -/

/-- Only a transition rewrites rows. -/
theorem step_row {move : SafetyMove τ} (hmove : ∀ t, move ≠ .transition t) :
    (world.step config capitalPerSymbol move).table.row = world.table.row := by
  cases move with
  | transition t => exact absurd rfl (hmove t)
  | read t symbol call =>
      simp only [step]
      split <;> rfl
  | raiseFlag t => rfl
  | resume t => rfl
  | reconciled t mismatches =>
      simp only [step]
      split
      · rfl
      · split <;> rfl
  | inspect t symbol planned =>
      simp only [step]
      split <;> rfl
  | readFlag t =>
      simp only [step]
      split <;> rfl
  | lowerFlag t =>
      simp only [step]
      split
      · rfl
      · split <;> rfl
  | leave t => rfl
  | crash => rfl

variable (config capitalPerSymbol) in
/-- A move that respects SAFE_MODE leaves it to a resume. -/
theorem state_step (horderly : world.Orderly) {move : SafetyMove τ}
    (hrespects : world.RespectsSafeMode move) {symbol : EnabledSymbol}
    (hsafe : world.state symbol = .safeMode) :
    (world.step config capitalPerSymbol move).state symbol = .safeMode ∨
      ∃ t, move = .transition t ∧ world.Recovers t symbol := by
  by_cases hmove : ∃ t, move = .transition t
  · obtain ⟨t, rfl⟩ := hmove
    have hchecked : Optimistic.Checked (PositionCall.write config capitalPerSymbol) :=
      PositionCall.write_checked
    obtain hrow | ⟨pending, next, hpending, hseen, hwrite, hrow⟩ :=
      Optimistic.commit_row hchecked horderly.fresh t
    · left
      simp only [state, step, hrow]
      exact hsafe
    · by_cases hkey : symbol = pending.key
      · subst hkey
        by_cases hrecovers : pending.call = .recoverSafeMode
        · refine Or.inr ⟨t, rfl, pending.seen, ?_⟩
          rw [hpending, ← hrecovers]
        · left
          obtain ⟨transition, htransition, hok⟩ := PositionCall.write_eq_some hwrite
          obtain ⟨-, -, hnew, -⟩ := transitionPosition_ok hok
          -- What the thread has read is the row itself, so the call meets SAFE_MODE.
          have hkeeps := hrespects pending hpending hseen (hseen ▸ hsafe)
          rw [hseen] at hkeeps
          simp only [state, step, hrow, Function.update_self, hnew]
          by_contra hleaves
          exact hkeeps ((PositionCall.endangers_iff hsafe hrecovers).mpr
            ⟨transition, htransition, hleaves⟩)
      · left
        simp only [state, step, hrow, Function.update_of_ne hkey]
        exact hsafe
  · left
    have hrow : (world.step config capitalPerSymbol move).table.row = world.table.row :=
      step_row fun t ht => hmove ⟨t, ht⟩
    simp only [state, hrow]
    exact hsafe

variable (config capitalPerSymbol) in
/-- Only a resume lowers the flag. -/
theorem flag_step (move : SafetyMove τ) (hflag : world.portfolioSafeMode = some true) :
    (world.step config capitalPerSymbol move).portfolioSafeMode = some true ∨
      ∃ t resuming, move = .lowerFlag t ∧ world.resuming t = some resuming ∧
        resuming.clean = true := by
  cases move with
  | lowerFlag t =>
      simp only [step]
      split
      · exact Or.inl hflag
      · rename_i resuming hresuming
        split
        · rename_i hmay
          exact Or.inr ⟨t, resuming, rfl, hresuming, Resuming.clean_of_mayRecover hmay.1⟩
        · exact Or.inl hflag
  | raiseFlag t => exact Or.inl rfl
  | read t symbol call =>
      left
      simp only [step]
      split <;> exact hflag
  | transition t => exact Or.inl hflag
  | resume t => exact Or.inl hflag
  | reconciled t mismatches =>
      left
      simp only [step]
      split
      · exact hflag
      · split <;> exact hflag
  | inspect t symbol planned =>
      left
      simp only [step]
      split <;> exact hflag
  | readFlag t =>
      left
      simp only [step]
      split <;> exact hflag
  | leave t => exact Or.inl hflag
  | crash => exact Or.inl hflag

/-! ## Whole runs -/

theorem run_append (front back : List (SafetyMove τ)) :
    world.run config capitalPerSymbol (front ++ back) =
      (world.run config capitalPerSymbol front).run config capitalPerSymbol back :=
  List.foldl_append

variable (config capitalPerSymbol) in
/-- A row in SAFE_MODE stays there until a transition of a resume. -/
theorem state_run (horderly : world.Orderly) {moves : List (SafetyMove τ)}
    (hrespects : Run.Along (step config capitalPerSymbol) RespectsSafeMode world moves)
    {symbol : EnabledSymbol} (hsafe : world.state symbol = .safeMode) :
    (world.run config capitalPerSymbol moves).state symbol = .safeMode ∨
      ∃ front t back, moves = front ++ .transition t :: back ∧
        (world.run config capitalPerSymbol front).Recovers t symbol := by
  induction moves generalizing world with
  | nil => exact Or.inl hsafe
  | cons move moves ih =>
      obtain hkept | ⟨t, rfl, hrecovers⟩ :=
        state_step config capitalPerSymbol horderly hrespects.1 hsafe
      · obtain hlater | ⟨front, t, back, rfl, hrecovers⟩ :=
          ih (horderly.step move) hrespects.2 hkept
        · exact Or.inl hlater
        · exact Or.inr ⟨move :: front, t, back, rfl, hrecovers⟩
      · exact Or.inr ⟨[], t, moves, rfl, hrecovers⟩

variable (config capitalPerSymbol) in
/-- The flag stays up until a resume that was reconciled lowers it. -/
theorem flag_run (moves : List (SafetyMove τ)) (hflag : world.portfolioSafeMode = some true) :
    (world.run config capitalPerSymbol moves).portfolioSafeMode = some true ∨
      ∃ front t back resuming, moves = front ++ .lowerFlag t :: back ∧
        (world.run config capitalPerSymbol front).resuming t = some resuming ∧
        resuming.clean = true := by
  induction moves generalizing world with
  | nil => exact Or.inl hflag
  | cons move moves ih =>
      obtain hkept | ⟨t, resuming, rfl, hresuming, hclean⟩ :=
        flag_step config capitalPerSymbol move hflag
      · obtain hlater | ⟨front, t, back, resuming, rfl, hresuming, hclean⟩ := ih hkept
        · exact Or.inl hlater
        · exact Or.inr ⟨move :: front, t, back, resuming, rfl, hresuming, hclean⟩
      · exact Or.inr ⟨[], t, moves, resuming, rfl, hresuming, hclean⟩

/-- Between the two ends of a run, SAFE_MODE of the position was kept, or a resume that
was reconciled has taken the position out of it. -/
def KeepsPosition (config : StrategyConfig) (capitalPerSymbol : Decimal) (world : SafetyWorld τ)
    (front back : List (SafetyMove τ)) (symbol : EnabledSymbol) : Prop :=
  (world.run config capitalPerSymbol front).state symbol = .safeMode →
    (world.run config capitalPerSymbol (front ++ back)).state symbol = .safeMode ∨
      ∃ middle t rest, back = middle ++ .transition t :: rest ∧
        (world.run config capitalPerSymbol (front ++ middle)).Recovers t symbol ∧
        CleanlyReconciled t (front ++ middle)

/-- The same for the flag of the portfolio. -/
def KeepsFlag (config : StrategyConfig) (capitalPerSymbol : Decimal) (world : SafetyWorld τ)
    (front back : List (SafetyMove τ)) : Prop :=
  (world.run config capitalPerSymbol front).portfolioSafeMode = some true →
    (world.run config capitalPerSymbol (front ++ back)).portfolioSafeMode = some true ∨
      ∃ middle t rest, back = middle ++ .lowerFlag t :: rest ∧
        CleanlyReconciled t (front ++ middle)

/-- The flag lasts in every run. -/
theorem keepsFlag (hrest : world.AtRest) (front back : List (SafetyMove τ)) :
    world.KeepsFlag config capitalPerSymbol front back := by
  intro hflag
  rw [run_append]
  obtain hkept | ⟨middle, t, rest, resuming, rfl, hresuming, hclean⟩ :=
    flag_run config capitalPerSymbol back hflag
  · exact Or.inl hkept
  · rw [← run_append] at hresuming
    exact Or.inr ⟨middle, t, rest, rfl, (resuming_of_run hrest _ hresuming).2 hclean⟩

end SafetyWorld

variable {τ : Type} [DecidableEq τ]

/-- In a run whose transitions respect SAFE_MODE, every position and the portfolio stay
in it until a resume takes them out, after a reconciliation of its own that has come back
clean. -/
theorem safe_mode_until_resume {config : StrategyConfig} {capitalPerSymbol : Decimal}
    {world : SafetyWorld τ} (hrest : world.AtRest) {front back : List (SafetyMove τ)}
    (hrespects : Run.Along (SafetyWorld.step config capitalPerSymbol) SafetyWorld.RespectsSafeMode
      world (front ++ back)) :
    (∀ symbol, world.KeepsPosition config capitalPerSymbol front back symbol) ∧
      world.KeepsFlag config capitalPerSymbol front back := by
  refine ⟨?_, SafetyWorld.keepsFlag hrest front back⟩
  intro symbol hsafe
  have horderly : (world.run config capitalPerSymbol front).Orderly := hrest.orderly.run front
  have hback := ((Run.along_append _ _ _ _).mp hrespects).2
  rw [SafetyWorld.run_append]
  obtain hkept | ⟨middle, t, rest, rfl, hrecovers⟩ := SafetyWorld.state_run config capitalPerSymbol horderly hback hsafe
  · exact Or.inl hkept
  · rw [← SafetyWorld.run_append] at hrecovers
    obtain ⟨seen, hpending⟩ := hrecovers
    have horderly' : (world.run config capitalPerSymbol (front ++ middle)).Orderly :=
      hrest.orderly.run (front ++ middle)
    obtain ⟨resuming, hresuming, hclean⟩ := horderly'.recovers t _ hpending rfl
    exact Or.inr ⟨middle, t, rest, rfl, ⟨seen, hpending⟩,
      (SafetyWorld.resuming_of_run hrest _ hresuming).2 hclean⟩

/-! ## A position that is restored -/

namespace RestoredBuy

inductive Thread where
  | trader
  | scheduler
  | operator
deriving DecidableEq

/-- The database of a first start. -/
def world : SafetyWorld Thread where
  table := { row := fun _ => ⟨{ cashRemaining := 20000 }, 0⟩, pending := fun _ => none }

theorem world_atRest : world.AtRest := ⟨fun _ => rfl, fun _ => rfl⟩

/-- A thread reads a row and writes it. -/
def calls (t : Thread) (call : PositionCall) : List (SafetyMove Thread) :=
  [.read t .tqqq call, .transition t]

/-- A first entry waits for its fill; then a reconciliation finds a mismatch. -/
def mismatch : List (SafetyMove Thread) :=
  calls .trader (.submissionStarted (.entry 0)) ++ calls .scheduler .enterSafeMode ++
    [.raiseFlag .scheduler]

/-- The monitor sees that the order was canceled without a fill. -/
def restore : List (SafetyMove Thread) := calls .scheduler (.restoreUnfilledBuy (.entry 0))

/-- The operator resumes after a clean reconciliation. -/
def recovery : List (SafetyMove Thread) :=
  [.resume .operator, .reconciled .operator false, .inspect .operator .tqqq false,
    .inspect .operator .soxl false] ++ calls .operator .recoverSafeMode ++
    [.readFlag .operator, .lowerFlag .operator, .leave .operator]

theorem no_resume (t : Thread) : SafetyMove.resume t ∉ mismatch ++ restore := by
  cases t <;> decide

end RestoredBuy

open RestoredBuy in
theorem safe_mode_until_resume_recovered :
    (∀ symbol, world.KeepsPosition .strategyYaml 20000 mismatch recovery symbol) ∧
      world.KeepsFlag .strategyYaml 20000 mismatch recovery := by
  refine safe_mode_until_resume world_atRest ?_
  -- Nobody reads a call here that could write over SAFE_MODE.
  refine ⟨trivial, ?_, trivial, ?_, trivial, trivial, trivial, trivial, trivial, trivial, ?_,
    trivial, trivial, trivial, trivial⟩
  · intro pending hpending
    obtain rfl := Option.some.inj hpending
    exact fun _ _ => id
  · intro pending hpending
    obtain rfl := Option.some.inj hpending
    exact fun _ _ => id
  · intro pending hpending
    obtain rfl := Option.some.inj hpending
    exact fun _ _ => id

open RestoredBuy in
/-- A BUY that ends without a fill takes its position out of SAFE_MODE; nobody has
resumed. -/
theorem unfilled_buy_leaves_safe_mode :
    ¬∀ (world : SafetyWorld Thread) (front back : List (SafetyMove Thread)), world.AtRest →
      (∀ symbol, world.KeepsPosition .strategyYaml 20000 front back symbol) ∧
        world.KeepsFlag .strategyYaml 20000 front back := by
  intro hclaim
  have hkeeps := (hclaim world mismatch restore world_atRest).1 .tqqq
  have hsafe : (world.run .strategyYaml 20000 mismatch).state .tqqq = .safeMode := by decide +kernel
  obtain hkept | ⟨middle, t, rest, hback, -, front', back', hmoves, ⟨before, after, rfl, -⟩, -⟩ :=
    hkeeps hsafe
  · have hempty : (world.run .strategyYaml 20000 (mismatch ++ restore)).state .tqqq = .empty := by
      decide +kernel
    rw [hempty] at hkept
    cases hkept
  · refine no_resume t ?_
    rw [hback, ← List.append_assoc, hmoves]
    simp

end JdHoldings
