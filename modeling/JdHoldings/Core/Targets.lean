import JdHoldings.Core.Replay

/-!
# The target rows

Every row of `replay_targets` is the base allocation of its state with the overlay on top.
The base allocation holds the leverage of the state, the overlay takes at most a twentieth
of the weight out of `QQQ` and gives it to the active leveraged symbols, and over the rows
of one calendar month neither leverage nor the semiconductor sleeve comes back.
-/

namespace JdHoldings

/-! ## One row -/

/-- A row of the frame `replay_targets` returns. -/
structure TargetRow where
  leverage : Decimal
  semiconductorActive : Bool
  jdssTqqqActive : Bool
  jdssSoxlActive : Bool
  weights : Weights

def Weights.total (weights : Weights) : Decimal :=
  weights .qqq + weights .tqqq + weights .soxl

/-- The row of a state, under the two overlay flags. -/
def AllocationState.targetRow (state : AllocationState) (activeTqqq activeSoxl : Bool) :
    TargetRow where
  leverage := state.leverage
  semiconductorActive := state.semiconductorActive
  jdssTqqqActive := activeTqqq
  jdssSoxlActive := activeSoxl
  weights := applyJdssOverlay (baseWeights state.leverage state.semiconductorActive)
    activeTqqq activeSoxl

/-- The weights of a row before the overlay. -/
def TargetRow.base (row : TargetRow) : Weights :=
  baseWeights row.leverage row.semiconductorActive

/-- What a row says about its weights. -/
structure TargetRow.Sound (row : TargetRow) : Prop where
  nonneg : ∀ symbol, 0 ≤ row.weights symbol
  total_eq : row.weights.total = min 1 row.leverage
  synthetic : row.base .qqq + 3 * (row.base .tqqq + row.base .soxl) = row.leverage
  overlay : row.weights = applyJdssOverlay row.base row.jdssTqqqActive row.jdssSoxlActive
  moved_le : row.base .qqq - row.weights .qqq ≤ 1 / 20
  moved_out : row.weights .qqq ≤ row.base .qqq
  moved_tqqq : row.base .tqqq ≤ row.weights .tqqq
  moved_soxl : row.base .soxl ≤ row.weights .soxl
  only_tqqq : row.jdssTqqqActive = false → row.weights .tqqq = row.base .tqqq
  only_soxl : row.jdssSoxlActive = false → row.weights .soxl = row.base .soxl
  total_kept : row.weights.total = row.base.total

/-- What the overlay takes out of `QQQ`. -/
def overlayShift (activeTqqq activeSoxl : Bool) : Decimal :=
  if activeTqqq || activeSoxl then 1 / 20 else 0

/-- What the overlay gives to a symbol, from its own flag and the other one. -/
def overlayShare (active other : Bool) : Decimal :=
  if active then if other then 1 / 40 else 1 / 20 else 0

theorem overlayShare_nonneg (active other : Bool) : 0 ≤ overlayShare active other := by
  cases active <;> cases other <;> norm_num [overlayShare]

theorem overlayShift_nonneg (activeTqqq activeSoxl : Bool) :
    0 ≤ overlayShift activeTqqq activeSoxl := by
  unfold overlayShift
  split <;> norm_num

theorem overlayShift_le (activeTqqq activeSoxl : Bool) :
    overlayShift activeTqqq activeSoxl ≤ 1 / 20 := by
  unfold overlayShift
  split <;> norm_num

theorem overlayShift_eq (activeTqqq activeSoxl : Bool) :
    overlayShift activeTqqq activeSoxl =
      overlayShare activeTqqq activeSoxl + overlayShare activeSoxl activeTqqq := by
  cases activeTqqq <;> cases activeSoxl <;> norm_num [overlayShift, overlayShare]

/-- A weight the last filter of `apply_jdss_overlay` leaves as it is. -/
def Visible (weight : Decimal) : Prop := weight = 0 ∨ 1 / 1000000000000 < weight

theorem Visible.kept {weight : Decimal} (hvisible : Visible weight) :
    (if 1 / 1000000000000 < weight then weight else 0) = weight := by
  rcases hvisible with rfl | hweight
  · norm_num
  · rw [if_pos hweight]

theorem Visible.add_share {weight : Decimal} (hvisible : Visible weight) (active other : Bool) :
    Visible (weight + overlayShare active other) := by
  have hshare : overlayShare active other = 0 ∨ 1 / 40 ≤ overlayShare active other := by
    cases active <;> cases other <;> norm_num [overlayShare]
  rcases hshare with hzero | hshare
  · rw [hzero, add_zero]
    exact hvisible
  · have hnonneg : 0 ≤ weight := by
      rcases hvisible with rfl | hweight
      · exact le_refl 0
      · linarith
    refine Or.inr ?_
    linarith

/-- With enough `QQQ` the overlay moves its twentieth and drops nothing. -/
theorem applyJdssOverlay_of_visible {weights : Weights} (hqqq : 1 / 10 ≤ weights .qqq)
    (htqqq : Visible (weights .tqqq)) (hsoxl : Visible (weights .soxl))
    (activeTqqq activeSoxl : Bool) :
    applyJdssOverlay weights activeTqqq activeSoxl = fun
      | .qqq => weights .qqq - overlayShift activeTqqq activeSoxl
      | .tqqq => weights .tqqq + overlayShare activeTqqq activeSoxl
      | .soxl => weights .soxl + overlayShare activeSoxl activeTqqq := by
  have hmin : min (1 / 20) (weights .qqq) = 1 / 20 := min_eq_left (by linarith)
  have hleft : Visible (weights .qqq - overlayShift activeTqqq activeSoxl) := by
    have hshift := overlayShift_le activeTqqq activeSoxl
    refine Or.inr ?_
    linarith
  have hgiven := htqqq.add_share activeTqqq activeSoxl
  have hgiven' := hsoxl.add_share activeSoxl activeTqqq
  funext symbol
  cases symbol with
  | qqq =>
      rw [← hleft.kept]
      cases activeTqqq <;> cases activeSoxl <;>
        norm_num [applyJdssOverlay, overlayShift, hmin]
  | tqqq =>
      dsimp only
      rw [← hgiven.kept]
      cases activeTqqq <;> cases activeSoxl <;>
        norm_num [applyJdssOverlay, overlayShare, hmin]
  | soxl =>
      dsimp only
      rw [← hgiven'.kept]
      cases activeTqqq <;> cases activeSoxl <;>
        norm_num [applyJdssOverlay, overlayShare, hmin]

/-- The base allocation of every leverage the policy knows. -/
theorem baseWeights_of_level {leverage : Decimal} (hlevel : leverage ∈ exposureLevels)
    (semiconductorActive : Bool) :
    1 / 10 ≤ baseWeights leverage semiconductorActive .qqq ∧
      Visible (baseWeights leverage semiconductorActive .tqqq) ∧
      Visible (baseWeights leverage semiconductorActive .soxl) ∧
      (baseWeights leverage semiconductorActive).total = min 1 leverage ∧
      baseWeights leverage semiconductorActive .qqq
        + 3 * (baseWeights leverage semiconductorActive .tqqq
          + baseWeights leverage semiconductorActive .soxl) = leverage := by
  simp only [exposureLevels, V322Policy.leverageDefensive, V322Policy.leverageNormal,
    V322Policy.leverageTrend, V322Policy.leverageStrong, List.mem_cons, List.not_mem_nil,
    or_false] at hlevel
  rcases hlevel with rfl | rfl | rfl | rfl <;> cases semiconductorActive <;>
    norm_num [baseWeights, Visible, Weights.total]

/-- Every row of a level the policy knows is sound. -/
theorem AllocationState.targetRow_sound {state : AllocationState}
    (hlevel : state.leverage ∈ exposureLevels) (activeTqqq activeSoxl : Bool) :
    (state.targetRow activeTqqq activeSoxl).Sound := by
  obtain ⟨hqqq, htqqq, hsoxl, htotal, hsynthetic⟩ :=
    baseWeights_of_level hlevel state.semiconductorActive
  have hweights := applyJdssOverlay_of_visible hqqq htqqq hsoxl activeTqqq activeSoxl
  have hnonneg : ∀ weight : Decimal, Visible weight → 0 ≤ weight := by
    rintro weight (rfl | hweight)
    · exact le_refl 0
    · linarith
  have hshift := overlayShift_le activeTqqq activeSoxl
  have hshift₀ := overlayShift_nonneg activeTqqq activeSoxl
  have hshare := overlayShare_nonneg activeTqqq activeSoxl
  have hshare' := overlayShare_nonneg activeSoxl activeTqqq
  -- What the overlay takes from QQQ goes to the two leveraged rows.
  have hkept : (applyJdssOverlay (baseWeights state.leverage state.semiconductorActive)
      activeTqqq activeSoxl).total
        = (baseWeights state.leverage state.semiconductorActive).total := by
    rw [hweights, Weights.total, Weights.total, overlayShift_eq]
    ring
  constructor
  case nonneg =>
    intro symbol
    simp only [targetRow, hweights]
    cases symbol with
    | qqq =>
        -- The shift out of QQQ is no more than QQQ has.
        dsimp only
        linarith
    | tqqq => exact add_nonneg (hnonneg _ htqqq) hshare
    | soxl => exact add_nonneg (hnonneg _ hsoxl) hshare'
  case total_eq => exact hkept.trans htotal
  case synthetic => exact hsynthetic
  case overlay => rfl
  case total_kept => exact hkept
  case moved_le =>
    simp only [targetRow, TargetRow.base, hweights]
    linarith
  case moved_out =>
    simp only [targetRow, TargetRow.base, hweights]
    linarith
  case moved_tqqq =>
    simp only [targetRow, TargetRow.base, hweights]
    linarith
  case moved_soxl =>
    simp only [targetRow, TargetRow.base, hweights]
    linarith
  case only_tqqq =>
    rintro (rfl : activeTqqq = false)
    simp [targetRow, TargetRow.base, hweights, overlayShare]
  case only_soxl =>
    rintro (rfl : activeSoxl = false)
    simp [targetRow, TargetRow.base, hweights, overlayShare]

/-! ## All rows -/

section Replay

variable {α : Type*} [LinearOrder α] [Zero α]

/-- What a session of the replay reads: the features of the two frames and the flags. -/
abbrev ReplayInput (α : Type*) := ((QqqRow α × RsRow α) × Bool) × Bool

/-- One round of the loop of `replay_targets`. -/
def replayStep (volatilityBrake : α) (previous : Option AllocationState)
    (row : Session × ReplayInput α) : Option AllocationState × TargetRow :=
  let (timestamp, ((qqqRow, semiRow), activeTqqq), activeSoxl) := row
  let state := advanceState volatilityBrake previous timestamp qqqRow semiRow
  (some state, state.targetRow activeTqqq activeSoxl)

/-- The target frame of the sessions of a series. -/
def replaySeries (volatilityBrake : α) (inputs : Series Session (ReplayInput α)) :
    Series Session TargetRow :=
  inputs.scan (replayStep volatilityBrake) none

/-- `replay_targets`, from the feature rows on. -/
def replayFeatures (volatilityBrake : α) (qqq : Series Session (QqqRow α))
    (semi : Series Session (RsRow α)) (activeTqqq activeSoxl : Series Session Bool) :
    Py (Series Session TargetRow) :=
  let targets := replaySeries volatilityBrake (((qqq.join semi).join activeTqqq).join activeSoxl)
  if targets.rows.isEmpty then
    .error (.value "V3.2.2 allocation target을 계산할 공통 거래일이 없습니다")
  else .ok targets

/-- `replay_targets`. -/
def replayTargets (ops : FloatOps α) (volatilityBrake : α)
    (qqqFrame semiconductorFrame : Series Session (Bar α))
    (activeTqqq activeSoxl : Series Session Bool) : Py (Series Session TargetRow) :=
  replayFeatures volatilityBrake (buildQqqFeatures ops qqqFrame)
    (buildRsFeatures ops semiconductorFrame) activeTqqq activeSoxl

/-- A later row of the same month has no more risk. -/
def OneWay (earlier later : Session × TargetRow) : Prop :=
  later.1.month = earlier.1.month →
    later.2.leverage ≤ earlier.2.leverage ∧
      (later.2.semiconductorActive → earlier.2.semiconductorActive)

/-- From a state on, the rows of its month stay below it. -/
theorem replayRows_notAbove (volatilityBrake : α) (previous : AllocationState)
    {inputs : List (Session × ReplayInput α)}
    (hsorted : inputs.Pairwise fun input later => input.1 < later.1)
    (hafter : ∀ input ∈ inputs, previous.month ≤ input.1.month) :
    ∀ row ∈ Series.scanRows (replayStep volatilityBrake) (some previous) inputs,
      row.1.month = previous.month →
        row.2.leverage ≤ previous.leverage ∧
          (row.2.semiconductorActive → previous.semiconductorActive) := by
  induction inputs generalizing previous with
  | nil =>
      intro row hrow
      cases hrow
  | cons input rest ih =>
      obtain ⟨timestamp, ⟨⟨qqqRow, semiRow⟩, activeTqqq⟩, activeSoxl⟩ := input
      obtain ⟨hlater, hrest⟩ := List.pairwise_cons.mp hsorted
      have hmonth := advanceState_month volatilityBrake timestamp qqqRow semiRow (some previous)
      intro row hrow hsame
      rcases List.mem_cons.mp hrow with rfl | hrow
      · obtain ⟨hleverage, hsemiconductor⟩ := advanceState_notAbove volatilityBrake previous
          timestamp qqqRow semiRow hsame.symm
        exact ⟨hleverage, hsemiconductor⟩
      · have hbelow := ih _ hrest (fun later hmem => by
          rw [hmonth]
          exact Session.month_le_month (hlater later hmem).le) row hrow
        -- a row of the month after one of a later month does not exist
        have hfrom : timestamp.month ≤ row.1.month := by
          obtain ⟨later, hmem, hkey⟩ := Series.key_of_mem_scanRows hrow
          rw [← hkey]
          exact Session.month_le_month (hlater later hmem).le
        have hhere : previous.month = timestamp.month := by
          have hle := hafter _ List.mem_cons_self
          exact le_antisymm hle (hsame ▸ hfrom)
        obtain ⟨hleverage, hsemiconductor⟩ := hbelow (by rw [hmonth, hsame, hhere])
        obtain ⟨hleverage', hsemiconductor'⟩ := advanceState_notAbove volatilityBrake previous
          timestamp qqqRow semiRow hhere
        exact ⟨hleverage.trans hleverage', fun hactive => hsemiconductor' (hsemiconductor hactive)⟩

theorem replayRows_oneWay (volatilityBrake : α) (previous : Option AllocationState)
    {inputs : List (Session × ReplayInput α)}
    (hsorted : inputs.Pairwise fun input later => input.1 < later.1) :
    (Series.scanRows (replayStep volatilityBrake) previous inputs).Pairwise OneWay := by
  induction inputs generalizing previous with
  | nil => exact List.Pairwise.nil
  | cons input rest ih =>
      obtain ⟨timestamp, ⟨⟨qqqRow, semiRow⟩, activeTqqq⟩, activeSoxl⟩ := input
      obtain ⟨hlater, hrest⟩ := List.pairwise_cons.mp hsorted
      have hmonth := advanceState_month volatilityBrake timestamp qqqRow semiRow previous
      refine List.pairwise_cons.mpr ⟨?_, ih _ hrest⟩
      intro row hrow hsame
      refine replayRows_notAbove volatilityBrake _ hrest ?_ row hrow (hsame.trans hmonth.symm)
      intro later hmem
      rw [hmonth]
      exact Session.month_le_month (hlater later hmem).le

theorem replayRows_sound (volatilityBrake : α) (previous : Option AllocationState)
    (hprevious : ∀ state ∈ previous, state.leverage ∈ exposureLevels)
    (inputs : List (Session × ReplayInput α)) :
    ∀ row ∈ Series.scanRows (replayStep volatilityBrake) previous inputs, row.2.Sound := by
  induction inputs generalizing previous with
  | nil =>
      intro row hrow
      cases hrow
  | cons input rest ih =>
      obtain ⟨timestamp, ⟨⟨qqqRow, semiRow⟩, activeTqqq⟩, activeSoxl⟩ := input
      have hlevel := advanceState_mem volatilityBrake timestamp qqqRow semiRow previous hprevious
      intro row hrow
      rcases List.mem_cons.mp hrow with rfl | hrow
      · exact AllocationState.targetRow_sound hlevel activeTqqq activeSoxl
      · refine ih _ ?_ row hrow
        rintro state ⟨⟩
        exact hlevel

/-- **The target rows.**  Within a calendar month leverage and the semiconductor sleeve
never come back, and every row is sound. -/
theorem target_rows_one_way_and_sound (volatilityBrake : α) (qqq : Series Session (QqqRow α))
    (semi : Series Session (RsRow α)) (activeTqqq activeSoxl : Series Session Bool)
    {targets : Series Session TargetRow}
    (htargets : replayFeatures volatilityBrake qqq semi activeTqqq activeSoxl = .ok targets) :
    targets.rows.Pairwise OneWay ∧ ∀ row ∈ targets.rows, row.2.Sound := by
  simp only [replayFeatures] at htargets
  split at htargets
  · cases htargets
  · cases htargets
    have hempty : ∀ state ∈ (none : Option AllocationState), state.leverage ∈ exposureLevels := by
      rintro state ⟨⟩
    exact ⟨replayRows_oneWay volatilityBrake none (Series.sorted _),
      replayRows_sound volatilityBrake none hempty _⟩

end Replay

/-- A calm day in a strong market. -/
def strongRow (volatility : ℚ) : QqqRow ℚ where
  close := some 500
  smaShort := some 480
  smaLong := some 450
  retShort := some (1 / 50)
  retMedium := some (1 / 20)
  retLong := some (1 / 10)
  volatility := some volatility
  smaLongSlope := some (1 / 100)

/-- Two sessions of one month; the volatility brake comes with the second one. -/
def twoSessions {ρ : Type*} (row later : ρ) : Series Session ρ where
  rows := [(toLex (0, 1), row), (toLex (0, 2), later)]
  sorted := by
    have hlt : (toLex (0, 1) : Session) < toLex (0, 2) := by decide
    simp [hlt]

theorem target_rows_one_way_and_sound_braked :
    ∃ targets, replayFeatures (3 / 10) (twoSessions (strongRow (1 / 10)) (strongRow (2 / 5)))
        (twoSessions ⟨some (1 / 5)⟩ ⟨some (1 / 5)⟩) (twoSessions true true)
        (twoSessions false true) = .ok targets ∧
      targets.rows.map (fun row => row.2.leverage) = [3 / 2, 1 / 2] ∧
      targets.rows.Pairwise OneWay ∧ ∀ row ∈ targets.rows, row.2.Sound := by
  refine ⟨replaySeries (3 / 10)
    ((((twoSessions (strongRow (1 / 10)) (strongRow (2 / 5))).join
      (twoSessions ⟨some (1 / 5)⟩ ⟨some (1 / 5)⟩)).join (twoSessions true true)).join
      (twoSessions false true)), rfl, by decide +kernel, ?_⟩
  exact target_rows_one_way_and_sound (3 / 10)
    (twoSessions (strongRow (1 / 10)) (strongRow (2 / 5)))
    (twoSessions ⟨some (1 / 5)⟩ ⟨some (1 / 5)⟩) (twoSessions true true) (twoSessions false true)
    rfl

end JdHoldings
