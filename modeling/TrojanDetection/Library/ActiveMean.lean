import Mathlib.Algebra.BigOperators.Field
import Mathlib.Algebra.Order.BigOperators.Ring.Finset
import Mathlib.Algebra.Order.Field.Basic
import Mathlib.Tactic.Linarith
import Mathlib.Tactic.Ring

/-!
# Weighted means over the indices that fire

A family of values `r` with weights `w` over a finite index set `s` is averaged over the indices
with a positive value only. The mean is not monotone in the values: raising a value from zero adds
its weight to the denominator. `activeMean_le_iff` gives the exact condition under which the mean
does not drop, as a balance between what the firing indices gain and what the newly firing indices
fall short of the old mean; `activeMean_le_of_new_ge` is the condition read off index by index.
`activeMean_eq_of_subset` drops indices that do not fire.

For weights that are positive in total over the firing indices the mean lies between the smallest
and the largest firing value (`exists_fired_le_activeMean`, `exists_activeMean_le_fired`). It does
not change with the scale of the weights (`activeMean_mul_weights`) nor with the values of indices
of weight zero (`activeMean_congr_weighted`).
-/

set_option autoImplicit false

namespace TrojanDetection.Library.ActiveMean

universe u v

variable {ι : Type u} {K : Type v} [Field K]

/-- The weighted total by which the values over `t` exceed the level `c`. -/
def excess (c : K) (t : Finset ι) (r w : ι → K) : K := ∑ i ∈ t, (r i - c) * w i

theorem excess_eq (c : K) (t : Finset ι) (r w : ι → K) :
    excess c t r w = ∑ i ∈ t, r i * w i - c * ∑ i ∈ t, w i := by
  simp only [excess, sub_mul, Finset.sum_sub_distrib, Finset.mul_sum]

/-- The excess after a rise from `r` to `r'` over a larger index set: the old excess, the rise of
the old indices, and the excess of the added ones. -/
theorem excess_rise [DecidableEq ι] {a b : Finset ι} (hab : a ⊆ b) (c : K) (r r' w : ι → K) :
    excess c b r' w =
      excess c a r w + ∑ i ∈ a, (r' i - r i) * w i - ∑ i ∈ b \ a, (c - r' i) * w i := by
  have hsplit : excess c b r' w = excess c (b \ a) r' w + excess c a r' w :=
    (Finset.sum_sdiff hab).symm
  have hold : excess c a r' w = excess c a r w + ∑ i ∈ a, (r' i - r i) * w i := by
    simp only [excess, ← Finset.sum_add_distrib]
    exact Finset.sum_congr rfl fun i _ => by ring
  have hnew : excess c (b \ a) r' w = - ∑ i ∈ b \ a, (c - r' i) * w i := by
    simp only [excess, ← Finset.sum_neg_distrib]
    exact Finset.sum_congr rfl fun i _ => by ring
  rw [hsplit, hold, hnew]
  ring

variable [LinearOrder K]

/-- The indices of `s` with a positive value. -/
def fired (s : Finset ι) (r : ι → K) : Finset ι := s.filter fun i => 0 < r i

/-- The weighted mean of the positive values; zero when no index fires. -/
def activeMean (s : Finset ι) (r w : ι → K) : K :=
  (∑ i ∈ fired s r, r i * w i) / ∑ i ∈ fired s r, w i

@[simp] theorem mem_fired {s : Finset ι} {r : ι → K} {i : ι} :
    i ∈ fired s r ↔ i ∈ s ∧ 0 < r i := by
  simp [fired]

theorem fired_subset (s : Finset ι) (r : ι → K) : fired s r ⊆ s := Finset.filter_subset _ _

/-- Larger values fire at least as often. -/
theorem fired_mono {s : Finset ι} {r r' : ι → K} (h : ∀ i ∈ s, r i ≤ r' i) :
    fired s r ⊆ fired s r' := by
  intro i hi
  rw [mem_fired] at hi ⊢
  exact ⟨hi.1, lt_of_lt_of_le hi.2 (h i hi.1)⟩

/-- Indices outside `t` that do not fire can be left out of the mean. -/
theorem fired_eq_of_subset {s t : Finset ι} {r : ι → K} (hts : t ⊆ s)
    (h : ∀ i ∈ s, i ∉ t → r i ≤ 0) : fired s r = fired t r := by
  ext i
  simp only [mem_fired]
  constructor
  · rintro ⟨his, hpos⟩
    refine ⟨?_, hpos⟩
    by_contra hit
    exact absurd hpos (not_lt.2 (h i his hit))
  · rintro ⟨hit, hpos⟩
    exact ⟨hts hit, hpos⟩

theorem activeMean_eq_of_subset {s t : Finset ι} {r : ι → K} (w : ι → K) (hts : t ⊆ s)
    (h : ∀ i ∈ s, i ∉ t → r i ≤ 0) : activeMean s r w = activeMean t r w := by
  rw [activeMean, activeMean, fired_eq_of_subset hts h]

theorem activeMean_of_fired_eq_empty {s : Finset ι} {r : ι → K} (w : ι → K)
    (h : fired s r = ∅) : activeMean s r w = 0 := by
  simp [activeMean, h]

/-- The mean does not depend on the scale of the weights. -/
theorem activeMean_mul_weights (s : Finset ι) (r w : ι → K) {k : K} (hk : k ≠ 0) :
    activeMean s r (fun i => k * w i) = activeMean s r w := by
  have hnum : ∑ i ∈ fired s r, r i * (k * w i) = k * ∑ i ∈ fired s r, r i * w i := by
    rw [Finset.mul_sum]
    exact Finset.sum_congr rfl fun i _ => by ring
  rw [activeMean, activeMean, hnum, ← Finset.mul_sum, mul_div_mul_left _ _ hk]

/-- A sum over the firing indices of terms that carry the weight as a factor does not see the values
of indices of weight zero. -/
theorem sum_fired_congr {s : Finset ι} {r r' w : ι → K} (h : ∀ i ∈ s, w i ≠ 0 → r i = r' i)
    (f : K → K) : ∑ i ∈ fired s r, f (r i) * w i = ∑ i ∈ fired s r', f (r' i) * w i := by
  simp only [fired, Finset.sum_filter]
  apply Finset.sum_congr rfl
  intro i hi
  by_cases hw : w i = 0
  · simp only [hw, mul_zero, ite_self]
  · rw [h i hi hw]

/-- The mean does not see the values of indices of weight zero. -/
theorem activeMean_congr_weighted {s : Finset ι} {r r' w : ι → K}
    (h : ∀ i ∈ s, w i ≠ 0 → r i = r' i) : activeMean s r w = activeMean s r' w := by
  have hnum := sum_fired_congr h id
  have hden := sum_fired_congr h fun _ => 1
  simp only [one_mul] at hden
  simp only [id] at hnum
  rw [activeMean, activeMean, hnum, hden]

/-- The firing values exceed their mean by nothing in total. -/
theorem excess_activeMean {s : Finset ι} {r w : ι → K} (hne : ∑ i ∈ fired s r, w i ≠ 0) :
    excess (activeMean s r w) (fired s r) r w = 0 := by
  rw [excess_eq, activeMean, div_mul_cancel₀ _ hne, sub_self]

section Ordered

variable [IsStrictOrderedRing K]

theorem sum_weight_pos {s : Finset ι} {r w : ι → K} (hw : ∀ i ∈ s, 0 < w i)
    (hne : (fired s r).Nonempty) : 0 < ∑ i ∈ fired s r, w i :=
  Finset.sum_pos (fun i hi => hw i (fired_subset s r hi)) hne

theorem activeMean_nonneg {s : Finset ι} {r w : ι → K} (hw : ∀ i ∈ s, 0 < w i) :
    0 ≤ activeMean s r w := by
  have hnum : ∀ i ∈ fired s r, 0 ≤ r i * w i := by
    intro i hi
    rw [mem_fired] at hi
    exact mul_nonneg hi.2.le (hw i hi.1).le
  have hden : ∀ i ∈ fired s r, 0 ≤ w i := fun i hi => (hw i (fired_subset s r hi)).le
  exact div_nonneg (Finset.sum_nonneg hnum) (Finset.sum_nonneg hden)

/-- A level is at most the mean exactly when the firing values exceed it in total. -/
theorem le_activeMean_iff {s : Finset ι} {r w : ι → K} (hpos : 0 < ∑ i ∈ fired s r, w i) (c : K) :
    c ≤ activeMean s r w ↔ 0 ≤ excess c (fired s r) r w := by
  rw [activeMean, le_div_iff₀ hpos, excess_eq, sub_nonneg]

/-- A level is at least the mean exactly when the firing values do not exceed it in total. -/
theorem activeMean_le_iff_excess {s : Finset ι} {r w : ι → K}
    (hpos : 0 < ∑ i ∈ fired s r, w i) (c : K) :
    activeMean s r w ≤ c ↔ excess c (fired s r) r w ≤ 0 := by
  rw [activeMean, div_le_iff₀ hpos, excess_eq, sub_nonpos]

section Bounds

variable {s : Finset ι} {r w : ι → K}

/-- The mean is at least the smallest firing value. -/
theorem exists_fired_le_activeMean (hw : ∀ i ∈ s, 0 ≤ w i)
    (hpos : 0 < ∑ i ∈ fired s r, w i) :
    ∃ i ∈ fired s r, (∀ j ∈ fired s r, r i ≤ r j) ∧ r i ≤ activeMean s r w := by
  obtain ⟨i, hi, hmin⟩ := Finset.exists_min_image (fired s r) r
    (Finset.nonempty_of_sum_ne_zero hpos.ne')
  refine ⟨i, hi, hmin, (le_activeMean_iff hpos _).2 ?_⟩
  apply Finset.sum_nonneg
  intro j hj
  exact mul_nonneg (sub_nonneg.2 (hmin j hj)) (hw j (fired_subset s r hj))

/-- The mean is at most the largest firing value. -/
theorem exists_activeMean_le_fired (hw : ∀ i ∈ s, 0 ≤ w i)
    (hpos : 0 < ∑ i ∈ fired s r, w i) :
    ∃ i ∈ fired s r, (∀ j ∈ fired s r, r j ≤ r i) ∧ activeMean s r w ≤ r i := by
  obtain ⟨i, hi, hmax⟩ := Finset.exists_max_image (fired s r) r
    (Finset.nonempty_of_sum_ne_zero hpos.ne')
  refine ⟨i, hi, hmax, (activeMean_le_iff_excess hpos _).2 ?_⟩
  apply Finset.sum_nonpos
  intro j hj
  exact mul_nonpos_of_nonpos_of_nonneg (sub_nonpos.2 (hmax j hj)) (hw j (fired_subset s r hj))

/-- With positive weights the mean is zero exactly when no index fires. -/
theorem activeMean_eq_zero_iff (hw : ∀ i ∈ s, 0 < w i) :
    activeMean s r w = 0 ↔ fired s r = ∅ := by
  constructor
  · intro hzero
    by_contra hne
    have hpos := sum_weight_pos hw (Finset.nonempty_iff_ne_empty.2 hne)
    obtain ⟨i, hi, -, hle⟩ := exists_fired_le_activeMean (fun i hi => (hw i hi).le) hpos
    rw [hzero] at hle
    exact absurd (mem_fired.1 hi).2 (not_lt.2 hle)
  · exact activeMean_of_fired_eq_empty w

end Bounds

/-- When the values rise from `r` to `r'`, the mean does not drop exactly when the weighted total
by which newly firing indices fall short of the old mean is at most the weighted rise of the
indices that fired before. -/
theorem activeMean_le_iff [DecidableEq ι] {s : Finset ι} {r r' w : ι → K}
    (hw : ∀ i ∈ s, 0 < w i) (h : ∀ i ∈ s, r i ≤ r' i) :
    activeMean s r w ≤ activeMean s r' w ↔
      ∑ i ∈ fired s r' \ fired s r, (activeMean s r w - r' i) * w i ≤
        ∑ i ∈ fired s r, (r' i - r i) * w i := by
  have hsub : fired s r ⊆ fired s r' := fired_mono h
  rcases (fired s r).eq_empty_or_nonempty with hempty | hne
  · -- nothing fired before: the old mean is zero and both sides hold
    rw [activeMean_of_fired_eq_empty w hempty, hempty, Finset.sdiff_empty, Finset.sum_empty]
    refine iff_of_true (activeMean_nonneg hw) (Finset.sum_nonpos fun i hi => ?_)
    rw [mem_fired] at hi
    exact mul_nonpos_of_nonpos_of_nonneg (by linarith [hi.2]) (hw i hi.1).le
  · have hpos : 0 < ∑ i ∈ fired s r, w i := sum_weight_pos hw hne
    have hpos' : 0 < ∑ i ∈ fired s r', w i := sum_weight_pos hw (hne.mono hsub)
    rw [le_activeMean_iff hpos', excess_rise hsub _ r, excess_activeMean hpos.ne', zero_add,
      sub_nonneg]

/-- If every newly firing index reaches the old mean, the mean does not drop. -/
theorem activeMean_le_of_new_ge {s : Finset ι} {r r' w : ι → K}
    (hw : ∀ i ∈ s, 0 < w i) (h : ∀ i ∈ s, r i ≤ r' i)
    (hnew : ∀ i ∈ s, r i ≤ 0 → 0 < r' i → activeMean s r w ≤ r' i) :
    activeMean s r w ≤ activeMean s r' w := by
  classical
  rw [activeMean_le_iff hw h]
  have hshort : ∑ i ∈ fired s r' \ fired s r, (activeMean s r w - r' i) * w i ≤ 0 := by
    apply Finset.sum_nonpos
    intro i hi
    rw [Finset.mem_sdiff, mem_fired, mem_fired, not_and, not_lt] at hi
    have hge := hnew i hi.1.1 (hi.2 hi.1.1) hi.1.2
    exact mul_nonpos_of_nonpos_of_nonneg (by linarith) (hw i hi.1.1).le
  have hrise : 0 ≤ ∑ i ∈ fired s r, (r' i - r i) * w i := by
    apply Finset.sum_nonneg
    intro i hi
    have his : i ∈ s := fired_subset s r hi
    exact mul_nonneg (by linarith [h i his]) (hw i his).le
  exact hshort.trans hrise

end Ordered

end TrojanDetection.Library.ActiveMean
