import JdHoldings.Application.Approvals

/-!
# Attempts on expired approvals

`consume_approval` marks an expired approval and raises in the same transaction, so the
mark is rolled back and the approval stays active (`expired_attempt_keeps_active`).  What
a refused attempt leaves is what it found, whatever it is refused for
(`consumeApproval_of_error`).  So the attempt does what it is meant to do exactly where no
mark is due (`attempt_marks_expired_iff`).
-/

namespace JdHoldings

namespace ApprovalStore

variable {δ : Type} [DecidableEq δ] {hash : String → δ} {approvalId : ℕ} {token : String}
  {stage : ApprovalStage} {now : Utc} {store : ApprovalStore δ} {row : Approval δ}

/-- A refused attempt leaves the whole store as it was. -/
theorem consumeApproval_of_error {refusal : ApprovalRefusal}
    (herror : (consumeApproval hash approvalId token stage now store).2 = .error refusal) :
    (consumeApproval hash approvalId token stage now store).1 = store := by
  rw [consumeApproval, inTransaction_snd] at herror
  rw [consumeApproval, inTransaction_of_error herror]

/-- Everything an attempt that succeeds has checked. -/
theorem consumeApproval_of_ok {result : SignalId × Option ApprovalPayload}
    (hok : (consumeApproval hash approvalId token stage now store).2 = .ok result) :
    ∃ row, store.approval? approvalId = some row ∧ row.status = .active ∧ row.stage = stage ∧
      ¬row.expiresAt < now ∧ row.tokenHash = hash token ∧
      (consumeApproval hash approvalId token stage now store).1 =
        store.updateApproval approvalId fun row =>
          { row with status := .used, usedAt := some now } := by
  rw [consumeApproval, inTransaction_snd] at hok
  have hafter : (consumeApproval hash approvalId token stage now store).1 =
      (consumeBody hash approvalId token stage now store).1 := by
    rw [consumeApproval, inTransaction_of_ok hok]
  rw [hafter]
  unfold consumeBody at hok ⊢
  cases hrow : store.approval? approvalId with
  | none =>
      rw [hrow] at hok
      cases hok
  | some row =>
      rw [hrow] at hok
      simp only at hok ⊢
      split at hok
      · cases hok
      next hactive =>
        split at hok
        · cases hok
        next hstage =>
          split at hok
          · cases hok
          next hfresh =>
            split at hok
            · cases hok
            next htoken =>
              rw [not_not] at hactive hstage htoken
              refine ⟨row, rfl, hactive, hstage, hfresh, htoken, ?_⟩
              rw [if_neg (not_not.mpr hactive), if_neg (not_not.mpr hstage), if_neg hfresh,
                if_neg (not_not.mpr htoken)]

/-- An attempt after the expiry is refused. -/
theorem consumeApproval_of_expired (hrow : store.approval? approvalId = some row)
    (hexpired : row.expiresAt < now) :
    ∃ refusal, (consumeApproval hash approvalId token stage now store).2 = .error refusal := by
  cases hresult : (consumeApproval hash approvalId token stage now store).2 with
  | error refusal => exact ⟨refusal, rfl⟩
  | ok result =>
      obtain ⟨found, hfound, -, -, hfresh, -⟩ := consumeApproval_of_ok hresult
      rw [hrow] at hfound
      cases hfound
      exact absurd hexpired hfresh

/-- What an active approval answers to an attempt on its stage after its expiry. -/
theorem consumeApproval_of_lapsed (hrow : store.approval? approvalId = some row)
    (hactive : row.status = .active) (hstage : row.stage = stage)
    (hexpired : row.expiresAt < now) :
    (consumeApproval hash approvalId token stage now store).2 = .error (.expired stage) := by
  rw [consumeApproval, inTransaction_snd]
  unfold consumeBody
  rw [hrow]
  simp only
  rw [if_neg (not_not.mpr hactive), if_neg (not_not.mpr hstage), if_pos hexpired]

/-- The expiry is named only to an attempt on the stage of an active approval that has
expired: the checks before it are passed. -/
theorem lapsed_of_consumeApproval_expired
    (hrefused : (consumeApproval hash approvalId token stage now store).2 =
      .error (.expired stage)) :
    ∃ row, store.approval? approvalId = some row ∧ row.status = .active ∧ row.stage = stage ∧
      row.expiresAt < now := by
  rw [consumeApproval, inTransaction_snd] at hrefused
  unfold consumeBody at hrefused
  cases hrow : store.approval? approvalId with
  | none =>
      rw [hrow] at hrefused
      cases hrefused
  | some row =>
      rw [hrow] at hrefused
      simp only at hrefused
      split at hrefused
      · cases hrefused
      next hactive =>
        split at hrefused
        · cases hrefused
        next hstage =>
          split at hrefused
          next hexpired =>
            exact ⟨row, rfl, not_not.mp hactive, not_not.mp hstage, hexpired⟩
          next =>
            -- only the token is left to refuse for
            split at hrefused
            · cases hrefused
            · cases hrefused

/-- What the attempt is meant to leave under its id.  After the expiry it is refused; refused
because the approval has expired it leaves it EXPIRED, and refused for any other reason it
leaves it as it was. -/
def MarksExpired (hash : String → δ) (approvalId : ℕ) (token : String) (stage : ApprovalStage)
    (now : Utc) (store : ApprovalStore δ) (row : Approval δ) : Prop :=
  let attempt := consumeApproval hash approvalId token stage now store
  (row.expiresAt < now → ∃ refusal, attempt.2 = .error refusal) ∧
    (attempt.2 = .error (.expired stage) →
      (attempt.1.approval? approvalId).map Approval.status = some .expired) ∧
    ∀ refusal, attempt.2 = .error refusal → refusal ≠ .expired stage →
      attempt.1.approval? approvalId = some row

end ApprovalStore

open ApprovalStore

variable {δ : Type} [DecidableEq δ] {hash : String → δ} {approvalId : ℕ} {token : String}
  {stage : ApprovalStage} {now : Utc} {store : ApprovalStore δ} {row : Approval δ}

/-- The mark of an attempt is missing exactly where it is due: on an active approval that an
attempt on its own stage finds expired. -/
theorem attempt_marks_expired_iff (hrow : store.approval? approvalId = some row) :
    MarksExpired hash approvalId token stage now store row ↔
      row.status ≠ .active ∨ row.stage ≠ stage ∨ ¬row.expiresAt < now := by
  constructor
  · intro hmarks
    by_contra hlapsed
    push Not at hlapsed
    obtain ⟨hactive, hstage, hexpired⟩ := hlapsed
    have hrefused :
        (consumeApproval hash approvalId token stage now store).2 = .error (.expired stage) :=
      consumeApproval_of_lapsed hrow hactive hstage hexpired
    have hmarked := hmarks.2.1 hrefused
    -- the mark went with the refused transaction
    rw [consumeApproval_of_error hrefused, hrow, Option.map_some, hactive] at hmarked
    cases hmarked
  · intro hcondition
    refine ⟨fun hexpired => consumeApproval_of_expired hrow hexpired, fun hrefused => ?_,
      fun refusal hrefused _ => ?_⟩
    · obtain ⟨found, hfound, hactive, hstage, hexpired⟩ :=
        lapsed_of_consumeApproval_expired hrefused
      rw [hrow] at hfound
      cases hfound
      exact absurd hcondition (by simp [hactive, hstage, hexpired])
    · rw [consumeApproval_of_error hrefused, hrow]

namespace Lapsed

def expiry : Utc := ⟨740168 * dayMicros, by decide, by decide⟩

/-- A second after the expiry. -/
def late : Utc := ⟨740168 * dayMicros + 1000000, by decide, by decide⟩

def approval : Approval ℕ where
  signalId := 7
  tokenHash := 1
  stage := .review
  expiresAt := expiry
  createdAt := expiry

def table : ApprovalStore ℕ where
  approvals := [approval]

end Lapsed

open Lapsed in
/-- The approval is still active after an attempt a second after its expiry. -/
theorem attempt_leaves_lapsed_active :
    ¬MarksExpired String.length 1 "t" .review late table approval := by
  intro hmarks
  exact absurd (hmarks.2.1 (by decide +kernel)) (by decide +kernel)

open Lapsed in
theorem attempt_marks_expired_iff_lapsed :
    MarksExpired String.length 1 "t" .review late table approval ↔
      approval.status ≠ .active ∨ approval.stage ≠ .review ∨ ¬approval.expiresAt < late :=
  attempt_marks_expired_iff rfl

/-- An attempt that is refused because the approval has expired leaves it active. -/
theorem expired_attempt_keeps_active
    (hrefused : (consumeApproval hash approvalId token stage now store).2 =
      .error (.expired stage)) :
    ((consumeApproval hash approvalId token stage now store).1.approval? approvalId).map
      Approval.status = some .active := by
  obtain ⟨row, hrow, hactive, -, -⟩ := lapsed_of_consumeApproval_expired hrefused
  rw [consumeApproval_of_error hrefused, hrow, Option.map_some, hactive]

end JdHoldings
