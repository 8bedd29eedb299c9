import Mathlib.Algebra.Order.Floor.Ring
import Mathlib.Data.Rat.Floor
import Mathlib.Tactic.Linarith
import Mathlib.Tactic.FieldSimp
import Mathlib.Tactic.Ring

/-!
# Quantization to a decimal tick

`quantize tick rounding value` moves an exact rational to a multiple of `tick`.
Two rounding rules of decimal arithmetic are given: truncation toward zero
(`ROUND_DOWN`) and rounding to the nearest multiple with ties to the even one
(`ROUND_HALF_EVEN`, the default of a decimal context).

The facts later proofs rely on are that both leave a multiple of the tick where
it is, that both results are multiples of the tick, and that truncation never
moves a nonnegative value up.
-/

namespace Quantize

/-- Truncation toward zero. -/
def roundDown (value : ℚ) : ℤ :=
  if 0 ≤ value then ⌊value⌋ else ⌈value⌉

/-- Nearest integer, ties to even. -/
def roundHalfEven (value : ℚ) : ℤ :=
  let low := ⌊value⌋
  let excess := value - low
  if excess < 1 / 2 then low
  else if 1 / 2 < excess then low + 1
  else if low % 2 = 0 then low else low + 1

/-- The value is a whole number of ticks. -/
def OnGrid (tick value : ℚ) : Prop := ∃ n : ℤ, value = n * tick

/-- `value.quantize(tick, rounding=ROUND_DOWN)`. -/
def down (tick value : ℚ) : ℚ := roundDown (value / tick) * tick

/-- `value.quantize(tick)` in the default context. -/
def halfEven (tick value : ℚ) : ℚ := roundHalfEven (value / tick) * tick

theorem roundDown_intCast (n : ℤ) : roundDown n = n := by
  simp [roundDown]

theorem roundHalfEven_intCast (n : ℤ) : roundHalfEven n = n := by
  simp [roundHalfEven]

theorem down_onGrid (tick value : ℚ) : OnGrid tick (down tick value) := ⟨_, rfl⟩

theorem halfEven_of_onGrid {tick value : ℚ} (htick : 0 < tick) (hgrid : OnGrid tick value) :
    halfEven tick value = value := by
  obtain ⟨n, rfl⟩ := hgrid
  rw [halfEven, mul_div_cancel_right₀ _ htick.ne', roundHalfEven_intCast]

theorem down_nonneg {tick value : ℚ} (htick : 0 < tick) (hvalue : 0 ≤ value) :
    0 ≤ down tick value := by
  have hdiv : 0 ≤ value / tick := div_nonneg hvalue htick.le
  have hfloor : (0 : ℤ) ≤ roundDown (value / tick) := by
    rw [roundDown, if_pos hdiv]
    exact Int.floor_nonneg.mpr hdiv
  have hcast : (0 : ℚ) ≤ (roundDown (value / tick) : ℤ) := by exact_mod_cast hfloor
  exact mul_nonneg hcast htick.le

theorem down_le {tick value : ℚ} (htick : 0 < tick) (hvalue : 0 ≤ value) :
    down tick value ≤ value := by
  have hdiv : 0 ≤ value / tick := div_nonneg hvalue htick.le
  have hfloor : ((roundDown (value / tick) : ℤ) : ℚ) ≤ value / tick := by
    rw [roundDown, if_pos hdiv]
    exact Int.floor_le _
  calc down tick value = (roundDown (value / tick) : ℤ) * tick := rfl
    _ ≤ value / tick * tick := mul_le_mul_of_nonneg_right hfloor htick.le
    _ = value := div_mul_cancel₀ _ htick.ne'

/-- A nonnegative value of at least `n` ticks truncates to at least `n` ticks. -/
theorem le_down_of_le {tick value : ℚ} {n : ℕ} (htick : 0 < tick) (hle : n * tick ≤ value) :
    n * tick ≤ down tick value := by
  have hvalue : 0 ≤ value := le_trans (mul_nonneg (Nat.cast_nonneg n) htick.le) hle
  have hdiv : 0 ≤ value / tick := div_nonneg hvalue htick.le
  have hfloor : ((n : ℤ) : ℤ) ≤ roundDown (value / tick) := by
    rw [roundDown, if_pos hdiv, Int.le_floor]
    rw [le_div_iff₀ htick]
    exact_mod_cast hle
  have hcast : (n : ℚ) ≤ (roundDown (value / tick) : ℤ) := by exact_mod_cast hfloor
  exact mul_le_mul_of_nonneg_right hcast htick.le

/-- Truncation never crosses a nonnegative tick below the value. -/
theorem onGrid_le_down {tick low value : ℚ} (htick : 0 < tick) (hlow : OnGrid tick low)
    (hnonneg : 0 ≤ low) (hle : low ≤ value) : low ≤ down tick value := by
  obtain ⟨n, rfl⟩ := hlow
  have hn : 0 ≤ n := by
    by_contra hneg
    have hcast : (n : ℚ) < 0 := by exact_mod_cast not_le.mp hneg
    exact absurd hnonneg (not_le.mpr (mul_neg_of_neg_of_pos hcast htick))
  lift n to ℕ using hn
  exact_mod_cast le_down_of_le htick (by exact_mod_cast hle)

theorem floor_le_roundHalfEven (value : ℚ) : ⌊value⌋ ≤ roundHalfEven value := by
  simp only [roundHalfEven]
  split
  · exact le_refl _
  · split
    · omega
    · split <;> omega

theorem roundHalfEven_le {value : ℚ} {n : ℤ} (hvalue : value ≤ n) : roundHalfEven value ≤ n := by
  rcases eq_or_lt_of_le hvalue with rfl | hlt
  · rw [roundHalfEven_intCast]
  · have hfloor : ⌊value⌋ + 1 ≤ n := Int.add_one_le_iff.mpr (Int.floor_lt.mpr hlt)
    simp only [roundHalfEven]
    split
    · omega
    · split
      · exact hfloor
      · split <;> omega

theorem roundHalfEven_le_add_half (value : ℚ) : (roundHalfEven value : ℚ) ≤ value + 1 / 2 := by
  have hfloor : (⌊value⌋ : ℚ) ≤ value := Int.floor_le value
  simp only [roundHalfEven]
  split
  · linarith
  next hhalf =>
    -- past the middle, the next integer is at most half a unit away
    have hup : ((⌊value⌋ + 1 : ℤ) : ℚ) ≤ value + 1 / 2 := by
      push_cast
      linarith
    split
    · exact hup
    · split
      · linarith
      · exact hup

theorem sub_half_le_roundHalfEven (value : ℚ) : value - 1 / 2 ≤ (roundHalfEven value : ℚ) := by
  have hfloor : value < ⌊value⌋ + 1 := Int.lt_floor_add_one value
  simp only [roundHalfEven]
  split
  · linarith
  next hhalf =>
    have hup : value - 1 / 2 ≤ ((⌊value⌋ + 1 : ℤ) : ℚ) := by
      push_cast
      linarith
    split
    · exact hup
    next hmiddle =>
      -- the excess is just one half, so both neighbours are near enough
      split
      · linarith
      · exact hup

/-- Rounding to the nearest tick adds at most half of one. -/
theorem halfEven_le_add_half {tick : ℚ} (htick : 0 < tick) (value : ℚ) :
    halfEven tick value ≤ value + tick / 2 := by
  calc halfEven tick value = (roundHalfEven (value / tick) : ℤ) * tick := rfl
    _ ≤ (value / tick + 1 / 2) * tick :=
        mul_le_mul_of_nonneg_right (roundHalfEven_le_add_half _) htick.le
    _ = value + tick / 2 := by field_simp

/-- Rounding to the nearest tick moves a value by at most half of one. -/
theorem abs_halfEven_sub_le {tick : ℚ} (htick : 0 < tick) (value : ℚ) :
    |halfEven tick value - value| ≤ tick / 2 := by
  have hupper := halfEven_le_add_half htick value
  have hlower : value - tick / 2 ≤ halfEven tick value := by
    calc value - tick / 2 = (value / tick - 1 / 2) * tick := by field_simp
      _ ≤ (roundHalfEven (value / tick) : ℤ) * tick :=
          mul_le_mul_of_nonneg_right (sub_half_le_roundHalfEven _) htick.le
      _ = halfEven tick value := rfl
  rw [abs_le]
  constructor <;> linarith

theorem halfEven_nonpos {tick value : ℚ} (htick : 0 < tick) (hvalue : value ≤ 0) :
    halfEven tick value ≤ 0 := by
  have hround : roundHalfEven (value / tick) ≤ 0 :=
    roundHalfEven_le (by exact_mod_cast div_nonpos_of_nonpos_of_nonneg hvalue htick.le)
  have hcast : ((roundHalfEven (value / tick) : ℤ) : ℚ) ≤ 0 := by exact_mod_cast hround
  exact mul_nonpos_of_nonpos_of_nonneg hcast htick.le

/-- Rounding to the nearest tick never leaves an interval between two ticks. -/
theorem halfEven_mem_of_onGrid {tick low high value : ℚ} (htick : 0 < tick) (hlow : OnGrid tick low)
    (hhigh : OnGrid tick high) (hmem : low ≤ value ∧ value ≤ high) :
    low ≤ halfEven tick value ∧ halfEven tick value ≤ high := by
  obtain ⟨n, rfl⟩ := hlow
  obtain ⟨m, rfl⟩ := hhigh
  have hn : (n : ℚ) ≤ value / tick := (le_div_iff₀ htick).mpr hmem.1
  have hm : value / tick ≤ m := (div_le_iff₀ htick).mpr hmem.2
  have hlower : n ≤ roundHalfEven (value / tick) :=
    (Int.le_floor.mpr hn).trans (floor_le_roundHalfEven _)
  have hupper : roundHalfEven (value / tick) ≤ m := roundHalfEven_le hm
  constructor
  · exact mul_le_mul_of_nonneg_right (by exact_mod_cast hlower) htick.le
  · exact mul_le_mul_of_nonneg_right (by exact_mod_cast hupper) htick.le

end Quantize
