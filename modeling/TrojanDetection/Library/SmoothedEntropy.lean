import Mathlib.Analysis.SpecialFunctions.Log.Base
import Mathlib.Algebra.BigOperators.Field

/-!
# Entropy with a smoothed logarithm

Programs compute the entropy of a probability vector as `-∑ p * log (p + ε)`, so that a probability
of zero does not end in an undefined logarithm. For `ε > 0` the value is at most the logarithm of the
number of outcomes, as the entropy itself is (`IsProbability.smoothedEntropy_le_logb_card`).
-/

set_option autoImplicit false

namespace TrojanDetection.Library.SmoothedEntropy

open Finset

universe u

variable {ι : Type u}

/-- The entropy to base `b` with `ε` added inside the logarithm. -/
noncomputable def smoothedEntropy (b ε : ℝ) (s : Finset ι) (p : ι → ℝ) : ℝ :=
  -∑ i ∈ s, p i * Real.logb b (p i + ε)

/-- A probability vector over `s`. -/
structure IsProbability (s : Finset ι) (p : ι → ℝ) : Prop where
  nonneg : ∀ i ∈ s, 0 ≤ p i
  sum_eq_one : ∑ i ∈ s, p i = 1

namespace IsProbability

variable {s : Finset ι} {p : ι → ℝ} {b ε : ℝ}

theorem card_pos (h : IsProbability s p) : 0 < s.card := by
  rw [Finset.card_pos]
  by_contra hempty
  have hsum := h.sum_eq_one
  rw [not_nonempty_iff_eq_empty.1 hempty, sum_empty] at hsum
  exact zero_ne_one hsum

/-- An outcome falls short of the uniform share by at least what its probability exceeds it. -/
theorem mul_log_le (h : IsProbability s p) (hε : 0 < ε) {i : ι} (hi : i ∈ s) :
    p i * -(Real.log (p i + ε) + Real.log s.card) ≤ 1 / s.card - p i := by
  have hcard : (0 : ℝ) < s.card := by exact_mod_cast h.card_pos
  have hpos : 0 < p i + ε := add_pos_of_nonneg_of_pos (h.nonneg i hi) hε
  have hprod : 0 < (p i + ε) * s.card := mul_pos hpos hcard
  have hlog : -(Real.log (p i + ε) + Real.log s.card) ≤ ((p i + ε) * s.card)⁻¹ - 1 := by
    rw [← Real.log_mul hpos.ne' hcard.ne', ← Real.log_inv]
    exact Real.log_le_sub_one_of_pos (inv_pos.2 hprod)
  have hshare : p i * ((p i + ε) * s.card)⁻¹ ≤ 1 / s.card := by
    rw [mul_inv, ← mul_assoc, one_div]
    apply mul_le_of_le_one_left (inv_nonneg.2 hcard.le)
    rw [← div_eq_mul_inv, div_le_one hpos]
    linarith
  calc p i * -(Real.log (p i + ε) + Real.log s.card)
      ≤ p i * (((p i + ε) * s.card)⁻¹ - 1) := mul_le_mul_of_nonneg_left hlog (h.nonneg i hi)
    _ = p i * ((p i + ε) * s.card)⁻¹ - p i := by ring
    _ ≤ 1 / s.card - p i := by linarith

/-- No entropy exceeds that of the uniform distribution. -/
theorem smoothedEntropy_le_logb_card (h : IsProbability s p) (hε : 0 < ε) (hb : 1 < b) :
    smoothedEntropy b ε s p ≤ Real.logb b s.card := by
  have hcard : (s.card : ℝ) ≠ 0 := by exact_mod_cast h.card_pos.ne'
  have hlogb : 0 < Real.log b := Real.log_pos hb
  have htotal : ∑ i ∈ s, p i * -(Real.log (p i + ε) + Real.log s.card) ≤ 0 := by
    calc ∑ i ∈ s, p i * -(Real.log (p i + ε) + Real.log s.card)
        ≤ ∑ i ∈ s, (1 / (s.card : ℝ) - p i) := sum_le_sum fun i hi => h.mul_log_le hε hi
      _ = 0 := by
          rw [sum_sub_distrib, h.sum_eq_one, sum_const, nsmul_eq_mul, mul_one_div_cancel hcard,
            sub_self]
  have hsplit : ∑ i ∈ s, p i * -(Real.log (p i + ε) + Real.log s.card) =
      -∑ i ∈ s, p i * Real.log (p i + ε) - Real.log s.card := by
    calc ∑ i ∈ s, p i * -(Real.log (p i + ε) + Real.log s.card)
        = ∑ i ∈ s, (-(p i * Real.log (p i + ε)) - p i * Real.log s.card) :=
          sum_congr rfl fun i _ => by ring
      _ = -∑ i ∈ s, p i * Real.log (p i + ε) - Real.log s.card := by
          rw [sum_sub_distrib, sum_neg_distrib, ← sum_mul, h.sum_eq_one, one_mul]
  have hscaled : smoothedEntropy b ε s p = (-∑ i ∈ s, p i * Real.log (p i + ε)) / Real.log b := by
    simp only [smoothedEntropy, Real.logb, mul_div_assoc', ← sum_div, neg_div]
  rw [hscaled, Real.logb, div_le_div_iff_of_pos_right hlogb]
  linarith

end IsProbability

end TrojanDetection.Library.SmoothedEntropy
