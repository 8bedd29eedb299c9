import Mathlib

/-!
# Sums clamped at zero

A running total that is never let below zero forgets what it was clamped at.  What is left
of it is the greatest sum of a final stretch of its terms: it is the sum of one of them
(`exists_suffix_eq`), and no sum of one is greater (`suffix_sum_le`).
-/

/-- The running total of some terms, clamped at zero after each of them. -/
def clampedSum (terms : List ℤ) : ℤ := terms.foldl (fun total term => max 0 (total + term)) 0

namespace clampedSum

theorem concat (terms : List ℤ) (term : ℤ) :
    clampedSum (terms ++ [term]) = max 0 (clampedSum terms + term) := by
  simp [clampedSum]

theorem nonneg (terms : List ℤ) : 0 ≤ clampedSum terms := by
  induction terms using List.reverseRecOn with
  | nil => exact le_refl 0
  | append_singleton terms term _ =>
      rw [concat]
      exact le_max_left _ _

theorem suffix_sum_le {stretch terms : List ℤ} (hsuffix : stretch <:+ terms) :
    stretch.sum ≤ clampedSum terms := by
  induction terms using List.reverseRecOn generalizing stretch with
  | nil =>
      rw [List.suffix_nil.mp hsuffix]
      exact le_refl 0
  | append_singleton terms term ih =>
      rw [concat]
      rcases List.suffix_concat_iff.mp hsuffix with rfl | ⟨earlier, rfl, hearlier⟩
      · exact le_max_left _ _
      · have hle := ih hearlier
        rw [List.sum_append, List.sum_singleton]
        exact le_trans (by omega) (le_max_right _ _)

theorem exists_suffix_eq (terms : List ℤ) :
    ∃ stretch, stretch <:+ terms ∧ stretch.sum = clampedSum terms := by
  induction terms using List.reverseRecOn with
  | nil => exact ⟨[], List.suffix_refl [], rfl⟩
  | append_singleton terms term ih =>
      obtain ⟨stretch, hsuffix, hsum⟩ := ih
      rw [concat]
      rcases le_total (clampedSum terms + term) 0 with hclamp | hclamp
      · exact ⟨[], List.nil_suffix, by rw [max_eq_left hclamp]; rfl⟩
      · refine ⟨stretch ++ [term], ?_, ?_⟩
        · exact List.suffix_concat_iff.mpr (Or.inr ⟨stretch, rfl, hsuffix⟩)
        · rw [List.sum_append, List.sum_singleton, hsum, max_eq_right hclamp]

/-- Something is left exactly when some final stretch has a positive sum. -/
theorem pos_iff (terms : List ℤ) :
    0 < clampedSum terms ↔ ∃ stretch, stretch <:+ terms ∧ 0 < stretch.sum := by
  constructor
  · intro hpos
    obtain ⟨stretch, hsuffix, hsum⟩ := exists_suffix_eq terms
    exact ⟨stretch, hsuffix, hsum ▸ hpos⟩
  · rintro ⟨stretch, hsuffix, hpos⟩
    exact hpos.trans_le (suffix_sum_le hsuffix)

/-- The value is the greatest sum of a final stretch. -/
theorem eq_iff (terms : List ℤ) (value : ℤ) :
    clampedSum terms = value ↔
      (∃ stretch, stretch <:+ terms ∧ stretch.sum = value) ∧
        ∀ stretch, stretch <:+ terms → stretch.sum ≤ value := by
  constructor
  · rintro rfl
    exact ⟨exists_suffix_eq terms, fun stretch hsuffix => suffix_sum_le hsuffix⟩
  · rintro ⟨⟨stretch, hsuffix, rfl⟩, hgreatest⟩
    obtain ⟨reached, hreached, hsum⟩ := exists_suffix_eq terms
    refine le_antisymm ?_ (suffix_sum_le hsuffix)
    rw [← hsum]
    exact hgreatest reached hreached

end clampedSum
