import JdHoldings.Application.ManagedAccount

/-!
# The live BUY contract

`require_live_auto_buy_contract` re-reads every AUTO key at the BUY boundary and
raises unless all of them are in order.  The flags and the numbers are checked by
two functions: only the first depends on what an operator or a safety service
does, and the second is a property of the capital accounting alone.

In live mode the process marks its repository, so the contract is always present.
-/

namespace JdHoldings

/-- `AUTO_VERSION`. -/
def autoVersion : String := "1.0.0"

def minBaseCapital : Decimal := 100
def maxBaseCapital : Decimal := 10000000
def minRatio : Decimal := 1 / 100
def maxRatio : Decimal := 1

/-- `Decimal("0.01")`. -/
def cent : Decimal := 1 / 100

theorem cent_pos : 0 < cent := by norm_num [cent]

/-- The keys the guard reads. -/
structure GuardView where
  autoEnabled : Option Bool
  autoVersion : Option String
  launchAuthorized : Option Bool
  startupQuarantine : Option Bool
  operatorHaltLatched : Option Bool
  autoState : Option AutoState
  baseCapital : Option Decimal
  ratio : Option Decimal
  targetPrincipal : Option Decimal
  effectivePrincipal : Option Decimal
  highWaterEquity : Option Decimal
  riskBudget : Option Decimal

/-- The keys as one transaction would read them. -/
def SystemState.guardView (system : SystemState) : GuardView where
  autoEnabled := system.autoEnabled
  autoVersion := system.autoVersion
  launchAuthorized := system.launchAuthorized
  startupQuarantine := system.startupQuarantine
  operatorHaltLatched := system.operatorHaltLatched
  autoState := system.autoState
  baseCapital := system.baseCapital
  ratio := system.ratio
  targetPrincipal := system.targetPrincipal
  effectivePrincipal := system.effectivePrincipal
  highWaterEquity := system.highWaterEquity
  riskBudget := system.riskBudget

/-- `_decimal`. -/
def requireDecimal (key : String) : Option Decimal → Py Decimal
  | some value => .ok value
  | none => .error (.runtime s!"JH AUTO 상태가 누락되었습니다: {key}")

namespace GuardView

/-- The clauses on the flags. -/
def requireFlags (view : GuardView) : Py Unit := do
  raiseIf (view.autoEnabled ≠ some true)
    (.runtime "JH AUTO 실행계층 활성상태가 누락·손상되었습니다")
  raiseIf (view.autoVersion ≠ some JdHoldings.autoVersion)
    (.runtime "JH AUTO 실행계층 버전이 현재 코드와 일치하지 않습니다")
  raiseIf (view.launchAuthorized ≠ some true)
    (.runtime "JH AUTO 최초 시작승인 전에는 실제 매수를 할 수 없습니다")
  raiseIf (view.startupQuarantine ≠ some false)
    (.runtime "JH AUTO 임시격리 상태라 실제 매수가 차단되어 있습니다")
  raiseIf (view.operatorHaltLatched ≠ some false)
    (.runtime "JH AUTO 대표 긴급정지 상태가 ON이거나 누락·손상되었습니다")
  raiseIf (view.autoState ≠ some .running) (.runtime "JH AUTO 실행상태가 RUNNING이 아닙니다")

/-- The clauses on the numbers. -/
def requireNumbers (view : GuardView) : Py Unit := do
  let base ← requireDecimal "jh_auto_base_capital" view.baseCapital
  let ratio ← requireDecimal "jh_auto_ratio" view.ratio
  let target ← requireDecimal "jh_auto_target_principal" view.targetPrincipal
  let effective ← requireDecimal "jh_auto_effective_principal" view.effectivePrincipal
  let highWater ← requireDecimal "v322_high_water_equity" view.highWaterEquity
  let riskBudget ← requireDecimal "v322_risk_budget" view.riskBudget
  raiseIf (¬(minBaseCapital ≤ base ∧ base ≤ maxBaseCapital))
    (.runtime "JH AUTO 총 투자금액 상태가 허용범위를 벗어났습니다")
  raiseIf (¬(minRatio ≤ ratio ∧ ratio ≤ maxRatio))
    (.runtime "JH AUTO 자동운용비율 상태가 허용범위를 벗어났습니다")
  let expectedTarget := Quantize.down cent (base * ratio)
  raiseIf (target ≠ expectedTarget)
    (.runtime "JH AUTO 목표 자동원금이 총 투자금액×자동운용비율과 일치하지 않습니다")
  raiseIf (effective ≤ 0 ∨ target < effective)
    (.runtime "JH AUTO 현재 허용원금이 목표 자동원금 범위를 벗어났습니다")
  raiseIf (highWater < effective)
    (.runtime "JH AUTO HWM이 현재 허용원금보다 작아 회계상태가 일관되지 않습니다")
  let maximumHwmBudget :=
    effective + V322Policy.hwmReinvestmentFraction * max 0 (highWater - effective)
  raiseIf (riskBudget < 0 ∨ maximumHwmBudget + cent < riskBudget)
    (.runtime "JH AUTO HWM75 위험예산이 독립 재계산 한도를 초과했습니다")

/-- `require_live_auto_buy_contract` on the keys it read.  `regularSession` is what
the market clock says about the current time. -/
def requireLiveAutoBuyContract (view : GuardView) (requireRegularSession regularSession : Bool) :
    Py Unit := do
  view.requireFlags
  view.requireNumbers
  raiseIf (requireRegularSession = true ∧ regularSession = false)
    (.runtime "JH AUTO 자동매수는 실제 제출 시점의 미국 정규장에서만 허용합니다")

/-- The contract raises nothing but `RuntimeError`. -/
theorem requireLiveAutoBuyContract_raises (view : GuardView)
    (requireRegularSession regularSession : Bool) :
    ∀ error, view.requireLiveAutoBuyContract requireRegularSession regularSession = .error error →
      ∃ message, error = .runtime message := by
  have hraise : ∀ {bad : Prop} [Decidable bad] {message : String} (error : PyError),
      raiseIf bad (.runtime message) = .error error → ∃ message, error = .runtime message := by
    intro bad _ message error herror
    exact ⟨message, (raiseIf_eq_error.mp herror).2.symm⟩
  have hdecimal : ∀ {key : String} {field : Option Decimal} (error : PyError),
      requireDecimal key field = .error error → ∃ message, error = .runtime message := by
    intro key field error herror
    cases field with
    | none =>
        cases herror
        exact ⟨_, rfl⟩
    | some value => cases herror
  refine Except.bind_raises ?_ fun _ => Except.bind_raises ?_ fun _ => hraise
  · iterate 5 refine Except.bind_raises hraise fun _ => ?_
    exact hraise
  · iterate 6 refine Except.bind_raises hdecimal fun _ => ?_
    iterate 5 refine Except.bind_raises hraise fun _ => ?_
    exact hraise

end GuardView

end JdHoldings
