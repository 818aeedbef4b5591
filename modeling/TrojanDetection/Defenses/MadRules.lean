import TrojanDetection.Defenses.NeuralCleanse
import TrojanDetection.Defenses.WeightAnalysis
import TrojanDetection.Library.MedianInvariance
import Mathlib.Data.List.FinRange
import Mathlib.Logic.Equiv.Fin.Basic

/-!
# The two MAD rules (`defenses.py`, `NeuralCleanse.detect`, `WeightAnalysis.detect`)

Both detectors flag the classes whose distance from the median is large in units of the median
absolute deviation. Neither flags more than half of the classes, and the indices of the weight
analysis do not depend on the order and the scale of the norms
(`flags_no_majority_and_indices_invariant`).

A distance has no sign. Each rule therefore reports the documented side only when nothing lies far
out on the other side (`flags_one_sided_iff`). And raising the largest norm also raises the unit:
the risk falls when the raised norm pulls the median absolute deviation up and was not needed for
the largest index (`raisingKeepsRisk_iff`).
-/

set_option autoImplicit false

namespace TrojanDetection.Defenses

open TrojanDetection.Library
open TrojanDetection.Library.RobustStatistics
open TrojanDetection.Models
open TrojanDetection.Defenses.RiskFusion

namespace WeightAnalysis

/-! ## Raising the largest norm -/

/-- The risk of a layer is read off its largest deviation. -/
theorem normalizeWeightAnalysis_anomalyIndices {norms : List ℚ} (hne : norms ≠ [])
    (hmad : medianAbsDev norms ≠ 0) :
    normalizeWeightAnalysis (anomalyIndices norms) =
      ramp (18 / 10) (32 / 10) (largestDeviation norms / medianAbsDev norms) := by
  have hpos : 0 < medianAbsDev norms := (medianAbsDev_nonneg norms).lt_of_ne' hmad
  have hindices := anomalyIndices_eq_map_deviations hmad
  have hnil : anomalyIndices norms ≠ [] := by
    rw [hindices]
    simpa [deviations] using hne
  obtain ⟨m, hm, hle, hramp⟩ := normalizeIndices_eq_ramp (18 / 10) (32 / 10) hnil
  rw [hindices] at hm hle
  obtain ⟨d, hd, rfl⟩ := List.mem_map.1 hm
  have hgreatest : IsGreatest {e | e ∈ deviations norms} d := by
    refine ⟨hd, ?_⟩
    intro e he
    exact (div_le_div_iff_of_pos_right hpos).1 (hle _ (List.mem_map.2 ⟨e, he, rfl⟩))
  rw [normalizeWeightAnalysis, hramp, hgreatest.unique (isGreatest_largestDeviation hne)]

/-- The risk of one layer against another: it is not higher if it is zero, if the other one is at
the cap, or if the largest index is not larger. -/
theorem risk_le_risk_iff {norms norms' : List ℚ} (hne : norms ≠ []) (hne' : norms' ≠ [])
    (hmad : 0 < medianAbsDev norms) (hmad' : 0 < medianAbsDev norms') :
    normalizeWeightAnalysis (anomalyIndices norms) ≤
        normalizeWeightAnalysis (anomalyIndices norms') ↔
      largestDeviation norms ≤ 18 / 10 * medianAbsDev norms ∨
        5 * medianAbsDev norms' ≤ largestDeviation norms' ∨
        largestDeviation norms * medianAbsDev norms' ≤
          largestDeviation norms' * medianAbsDev norms := by
  have hcap : (18 / 10 + 32 / 10 : ℚ) = 5 := by norm_num
  rw [normalizeWeightAnalysis_anomalyIndices hne hmad.ne',
    normalizeWeightAnalysis_anomalyIndices hne' hmad'.ne', ramp_le_ramp_iff (by norm_num), hcap,
    div_le_iff₀ hmad, le_div_iff₀ hmad', div_le_div_iff₀ hmad hmad']

/-- No layer whose norm `i` is larger, and the others equal, has a lower risk. -/
def RaisingKeepsRisk (wa : WeightAnalysis) (norms : List ℚ) (i : Fin norms.length) : Prop :=
  ∀ (wa' : WeightAnalysis) (name' : String) (y : ℚ),
    finalLinear wa'.modules = some (name', norms.set i y) → norms.get i < y →
      normalizeWeightAnalysis wa.detect ≤ normalizeWeightAnalysis wa'.detect

/-- The median absolute deviation once norm `i` deviates as much as the most remote norm. -/
def pulledMad (norms : List ℚ) (i : ℕ) : ℚ :=
  medianAbsDev (norms.set i (median norms + largestDeviation norms))

/-- Without a unit there is no risk; with one, the risk is zero, or the raised norm does not pull
the unit up, or the risk stays at the cap with the unit pulled up as far as possible. -/
def RaisingSafe (norms : List ℚ) (i : ℕ) : Prop :=
  medianAbsDev norms = 0 ∨ largestDeviation norms ≤ 18 / 10 * medianAbsDev norms ∨
    pulledMad norms i = medianAbsDev norms ∨ 5 * pulledMad norms i ≤ largestDeviation norms

instance (norms : List ℚ) (i : ℕ) : Decidable (RaisingSafe norms i) :=
  inferInstanceAs (Decidable (_ ∨ _ ∨ _ ∨ _))

section Raise

variable {norms : List ℚ} {i : Fin norms.length}

/-- The norm does not deviate more than the most remote one. -/
theorem get_le_median_add (hn : 3 ≤ norms.length) (hmax : ∀ x ∈ norms, x ≤ norms.get i) :
    norms.get i ≤ median norms + largestDeviation norms := by
  have hne : norms ≠ [] := List.ne_nil_of_length_pos (by omega)
  have hi : i.val < (deviations norms).length := by simp [deviations]
  have hown := (isGreatest_largestDeviation hne).2 (List.getElem_mem hi)
  rw [getElem_deviations_max i.isLt hmax hi] at hown
  exact sub_le_iff_le_add'.1 hown

/-- No raise pulls the unit further up than the one to the largest deviation. -/
theorem medianAbsDev_raised_le_pulledMad (hn : 3 ≤ norms.length)
    (hmax : ∀ x ∈ norms, x ≤ norms.get i) {y : ℚ} (hy : norms.get i ≤ y) :
    medianAbsDev (norms.set i y) ≤ pulledMad norms i := by
  have hpulled := get_le_median_add hn hmax
  rcases le_total y (median norms + largestDeviation norms) with hle | hge
  · -- from `y` the norm can still be raised to the largest deviation
    have hi : i.val < (norms.set i y).length := by simp
    have hstep := medianAbsDev_le_set_max (by simpa using hn) hi
      (le_getElem_set_max i.isLt hmax hy hi) (y := median norms + largestDeviation norms)
      (by simpa using hle)
    rwa [List.set_set] at hstep
  · -- beyond the largest deviation the unit stays
    have hi : i.val < (norms.set i (median norms + largestDeviation norms)).length := by simp
    have hlargest : largestDeviation (norms.set i (median norms + largestDeviation norms)) ≤
        (norms.set i (median norms + largestDeviation norms))[i.val] -
          median (norms.set i (median norms + largestDeviation norms)) := by
      rw [largestDeviation_set_max hn i.isLt hmax hpulled, List.getElem_set_self,
        median_set_max hn i.isLt hmax hpulled]
      simp
    have hstay := medianAbsDev_set_of_largest (by simpa using hn) hi
      (le_getElem_set_max i.isLt hmax hpulled hi) hlargest (y := y) (by simpa using hge)
    rw [List.set_set] at hstay
    exact hstay.le

/-- Where the condition holds, no raise lowers the risk. -/
theorem RaisingSafe.risk_le (h : RaisingSafe norms i) (hn : 3 ≤ norms.length)
    (hmax : ∀ x ∈ norms, x ≤ norms.get i) {y : ℚ} (hy : norms.get i ≤ y) :
    normalizeWeightAnalysis (anomalyIndices norms) ≤
      normalizeWeightAnalysis (anomalyIndices (norms.set i y)) := by
  have hne : norms ≠ [] := List.ne_nil_of_length_pos (by omega)
  rcases (medianAbsDev_nonneg norms).eq_or_lt with hzero | hpos
  · rw [anomalyIndices_of_eq_zero hzero.symm]
    exact normalizeIndices_nonneg _
  · have hmono := medianAbsDev_le_set_max hn i.isLt hmax hy
    have hpulled := medianAbsDev_raised_le_pulledMad hn hmax hy
    have hlargest : largestDeviation norms ≤ largestDeviation (norms.set i y) := by
      rw [largestDeviation_set_max hn i.isLt hmax hy]
      exact le_max_left _ _
    rw [risk_le_risk_iff hne (by simpa using hne) hpos (hpos.trans_le hmono)]
    rcases h with hzero | hsmall | hstays | hcapped
    · exact absurd hzero hpos.ne'
    · exact Or.inl hsmall
    · have hunit : medianAbsDev (norms.set i y) = medianAbsDev norms :=
        le_antisymm (hpulled.trans hstays.le) hmono
      right
      right
      rw [hunit]
      exact mul_le_mul_of_nonneg_right hlargest hpos.le
    · right
      left
      linarith

/-- If the raise to the largest deviation does not lower the risk, the condition holds. -/
theorem raisingSafe_of_risk_le (hn : 3 ≤ norms.length) (hmax : ∀ x ∈ norms, x ≤ norms.get i)
    (h : normalizeWeightAnalysis (anomalyIndices norms) ≤ normalizeWeightAnalysis
      (anomalyIndices (norms.set i (median norms + largestDeviation norms)))) :
    RaisingSafe norms i := by
  have hne : norms ≠ [] := List.ne_nil_of_length_pos (by omega)
  rcases (medianAbsDev_nonneg norms).eq_or_lt with hzero | hpos
  · exact Or.inl hzero.symm
  · have hpulled := get_le_median_add hn hmax
    have hmono : medianAbsDev norms ≤ pulledMad norms i :=
      medianAbsDev_le_set_max hn i.isLt hmax hpulled
    have hlargest :
        largestDeviation (norms.set i (median norms + largestDeviation norms)) =
          largestDeviation norms := by
      rw [largestDeviation_set_max hn i.isLt hmax hpulled, add_sub_cancel_left, max_self]
    rw [risk_le_risk_iff hne (by simpa using hne) hpos (hpos.trans_le hmono), hlargest] at h
    rcases h with hsmall | hcapped | hratio
    · exact Or.inr (Or.inl hsmall)
    · exact Or.inr (Or.inr (Or.inr hcapped))
    · rcases le_or_gt (largestDeviation norms) 0 with hnone | hsome
      · right
        left
        linarith
      · exact Or.inr (Or.inr (Or.inl (le_antisymm (le_of_mul_le_mul_left hratio hsome) hmono)))

/-- Raising a largest norm lowers no risk exactly when there is no unit, the risk is zero, the unit
cannot be pulled up, or the risk stays at the cap with the unit pulled up as far as possible. -/
theorem raisingKeepsRisk_iff (hn : 3 ≤ norms.length) (hmax : ∀ x ∈ norms, x ≤ norms.get i)
    {wa : WeightAnalysis} {name : String} (hlayer : finalLinear wa.modules = some (name, norms)) :
    RaisingKeepsRisk wa norms i ↔ RaisingSafe norms i := by
  rw [RaisingKeepsRisk, detect_of_finalLinear hlayer]
  constructor
  · intro h
    rcases (get_le_median_add hn hmax).eq_or_lt with heq | hlt
    · -- the norm is itself the most remote one
      right
      right
      left
      rw [pulledMad, ← heq, List.get_eq_getElem, List.set_getElem_self]
    · apply raisingSafe_of_risk_le hn hmax
      have hrisk := h (ofNorms _) "fc" _ (finalLinear_ofNorms _) hlt
      rwa [detect_of_finalLinear (finalLinear_ofNorms _)] at hrisk
  · intro h wa' name' y hlayer' hy
    rw [detect_of_finalLinear hlayer']
    exact h.risk_le hn hmax hy.le

end Raise

/-- The largest of the norms `1, 2, 3, 9` is the most remote one: raising it is safe. -/
theorem raisingKeepsRisk_remote :
    RaisingKeepsRisk (ofNorms [1, 2, 3, 9]) [1, 2, 3, 9] ⟨3, by decide⟩ := by
  have hmax : ∀ x ∈ ([1, 2, 3, 9] : List ℚ), x ≤ [1, 2, 3, 9].get ⟨3, by decide⟩ := by
    decide +kernel
  have hsafe : RaisingSafe [1, 2, 3, 9] 3 := by decide +kernel
  have hiff := raisingKeepsRisk_iff (i := ⟨3, by decide⟩) (by decide) hmax (finalLinear_ofNorms _)
  exact hiff.2 hsafe

/-- Raising the largest of the norms `1, 10, 11` to `19` takes the risk from one to zero. -/
theorem raised_norm_hides :
    (∀ x ∈ ([1, 10, 11] : List ℚ), x ≤ 11) ∧
      normalizeWeightAnalysis (ofNorms [1, 10, 11]).detect = 1 ∧
      normalizeWeightAnalysis (ofNorms [1, 10, 19]).detect = 0 ∧
      ¬ RaisingKeepsRisk (ofNorms [1, 10, 11]) [1, 10, 11] ⟨2, by decide⟩ := by
  have hbefore : normalizeWeightAnalysis (ofNorms [1, 10, 11]).detect = 1 := by decide +kernel
  have hafter : normalizeWeightAnalysis (ofNorms [1, 10, 19]).detect = 0 := by decide +kernel
  refine ⟨by decide +kernel, hbefore, hafter, ?_⟩
  intro h
  have hrisk := h (ofNorms [1, 10, 19]) "fc" 19 rfl (by decide +kernel)
  rw [hbefore, hafter] at hrisk
  exact absurd hrisk (by norm_num)

/-! ## The printed classes -/

/-- `np.where(anomaly_indices > 1.8)`, printed as anomalously large. The early returns print no
class. -/
def flaggedClasses (wa : WeightAnalysis) : List ℕ := whereAbove (18 / 10) wa.detect

/-- A class is flagged when its norm is more than `1.8` deviations away from the median. -/
theorem mem_flaggedClasses_iff {wa : WeightAnalysis} {name : String} {norms : List ℚ}
    (hlayer : finalLinear wa.modules = some (name, norms)) {c : ℕ} :
    c ∈ wa.flaggedClasses ↔ medianAbsDev norms ≠ 0 ∧
      ∃ x, norms[c]? = some x ∧ 18 / 10 * medianAbsDev norms < |x - median norms| := by
  rw [flaggedClasses, detect_of_finalLinear hlayer, mem_whereAbove_iff]
  by_cases hmad : medianAbsDev norms = 0
  · simp [anomalyIndices_of_eq_zero hmad, hmad]
  · simp [anomalyIndices_of_ne_zero hmad, hmad, lt_index_iff hmad]

end WeightAnalysis

/-- A class is flagged by a full sweep when its size is beyond the flagging distance. -/
theorem NeuralCleanse.mem_flaggedClasses_iff {μ : Type} (nc : NeuralCleanse μ)
    (hn : 3 ≤ nc.numClasses) (epochs : ℕ) {c : ℤ} :
    c ∈ (nc.detect epochs none).flaggedClasses ↔
      ∃ k : ℕ, (k : ℤ) = c ∧ ∃ x, nc.sweepSizes[k]? = some x ∧
        flagDistance nc.sweepSizes < |x - median nc.sweepSizes| := by
  rw [nc.detect_sweep hn, List.mem_map]
  simp only [mem_whereAbove_iff, anomalyIndex, deviations, List.map_map, List.getElem?_map]
  constructor
  · rintro ⟨k, ⟨d, hd, hlt⟩, rfl⟩
    obtain ⟨x, hx, rfl⟩ := Option.map_eq_some_iff.1 hd
    exact ⟨k, rfl, x, hx, (lt_index_iff _ _).1 hlt⟩
  · rintro ⟨k, rfl, x, hx, hlt⟩
    exact ⟨k, ⟨_, Option.map_eq_some_iff.2 ⟨x, hx, rfl⟩, (lt_index_iff _ _).2 hlt⟩, rfl⟩

namespace MadRules

/-! ## The documented side -/

/-- Every flagged class has a mask size below the median of the returned sizes. -/
def FlagsSmall {μ : Type} (found : Detection μ) : Prop :=
  ∀ c ∈ found.flaggedClasses, ∃ k : ℕ, (k : ℤ) = c ∧
    ∃ size, found.maskSizes[k]? = some size ∧ size < median found.maskSizes

/-- Every flagged class has a norm above the median. -/
def FlagsLarge (norms : List ℚ) (flaggedClasses : List ℕ) : Prop :=
  ∀ c ∈ flaggedClasses, ∃ norm, norms[c]? = some norm ∧ median norms < norm

/-- A point that is below if it is far away is not far above. -/
theorem lt_of_far_iff {x m distance : ℚ} (hpos : 0 < distance) :
    (distance < |x - m| → x < m) ↔ x ≤ m + distance := by
  constructor
  · intro h
    by_contra hfar
    have hdist : distance < |x - m| := lt_abs.2 (Or.inl (by linarith))
    linarith [h hdist]
  · intro hle hdist
    rcases lt_abs.1 hdist with habove | hbelow
    · linarith
    · linarith

theorem flagsSmall_iff {μ : Type} (nc : NeuralCleanse μ) (hn : 3 ≤ nc.numClasses) (epochs : ℕ) :
    FlagsSmall (nc.detect epochs none) ↔
      ∀ x ∈ nc.sweepSizes, x ≤ median nc.sweepSizes + NeuralCleanse.flagDistance nc.sweepSizes := by
  have hpos : 0 < NeuralCleanse.flagDistance nc.sweepSizes := by
    have hunit := NeuralCleanse.flooredMad_pos nc.sweepSizes
    rw [NeuralCleanse.flagDistance]
    linarith
  have hsizes : (nc.detect epochs none).maskSizes = nc.sweepSizes := by rw [nc.detect_sweep hn]
  have hposition : FlagsSmall (nc.detect epochs none) ↔
      ∀ k : ℕ, (∃ x, nc.sweepSizes[k]? = some x ∧
        NeuralCleanse.flagDistance nc.sweepSizes < |x - median nc.sweepSizes|) →
          ∃ x, nc.sweepSizes[k]? = some x ∧ x < median nc.sweepSizes := by
    simp only [FlagsSmall, hsizes, nc.mem_flaggedClasses_iff hn]
    constructor
    · intro h k hk
      obtain ⟨k', hkk, hsize⟩ := h k ⟨k, rfl, hk⟩
      rwa [Nat.cast_inj.1 hkk] at hsize
    · rintro h c ⟨k, rfl, hk⟩
      exact ⟨k, rfl, h k hk⟩
  rw [hposition, Positions.forall_position_iff]
  exact forall₂_congr fun x _ => lt_of_far_iff hpos

theorem flagsLarge_iff {wa : WeightAnalysis} {name : String} {norms : List ℚ}
    (hlayer : finalLinear wa.modules = some (name, norms)) :
    FlagsLarge norms wa.flaggedClasses ↔ medianAbsDev norms = 0 ∨
      ∀ x ∈ norms, median norms - 18 / 10 * medianAbsDev norms ≤ x := by
  simp only [FlagsLarge, WeightAnalysis.mem_flaggedClasses_iff hlayer]
  rcases (medianAbsDev_nonneg norms).eq_or_lt with hzero | hpos
  · simp [hzero.symm]
  · have hdistance : 0 < 18 / 10 * medianAbsDev norms := by linarith
    simp only [ne_eq, hpos.ne', not_false_eq_true, true_and, false_or]
    rw [Positions.forall_position_iff]
    apply forall₂_congr
    intro x _
    -- the other side is the same side of the mirrored distance
    rw [abs_sub_comm, lt_of_far_iff hdistance, sub_le_iff_le_add]

/-- A full sweep flags small masks only exactly when no size is beyond the flagging distance above
the median; the weight analysis flags large rows only exactly when it has no unit or no norm is more
than `1.8` units below the median. -/
theorem flags_one_sided_iff {μ : Type} (nc : NeuralCleanse μ) (hn : 3 ≤ nc.numClasses)
    (epochs : ℕ) {wa : WeightAnalysis} {name : String} {norms : List ℚ}
    (hlayer : finalLinear wa.modules = some (name, norms)) :
    (FlagsSmall (nc.detect epochs none) ↔
      ∀ x ∈ nc.sweepSizes,
        x ≤ median nc.sweepSizes + NeuralCleanse.flagDistance nc.sweepSizes) ∧
    (FlagsLarge norms wa.flaggedClasses ↔ medianAbsDev norms = 0 ∨
      ∀ x ∈ norms, median norms - 18 / 10 * medianAbsDev norms ≤ x) :=
  ⟨flagsSmall_iff nc hn epochs, flagsLarge_iff hlayer⟩

/-- A small mask among larger ones, and a large row among smaller ones. -/
theorem flags_one_sided_expected :
    FlagsSmall ((NeuralCleanse.ofSizes [1, 10, 11, 12]).detect 3 none) ∧
      FlagsLarge [1, 2, 3, 9] (WeightAnalysis.ofNorms [1, 2, 3, 9]).flaggedClasses := by
  obtain ⟨hsmall, hlarge⟩ := flags_one_sided_iff (NeuralCleanse.ofSizes [1, 10, 11, 12])
    (by decide) 3 (WeightAnalysis.finalLinear_ofNorms [1, 2, 3, 9])
  rw [NeuralCleanse.sweepSizes_ofSizes] at hsmall
  exact ⟨hsmall.2 (by decide +kernel), hlarge.2 (by decide +kernel)⟩

/-- A large mask among smaller ones and a small row among larger ones are flagged as well. -/
theorem flags_wrong_side :
    ((NeuralCleanse.ofSizes [10, 11, 12, 40]).detect 3 none).flaggedClasses = [3] ∧
      ¬ FlagsSmall ((NeuralCleanse.ofSizes [10, 11, 12, 40]).detect 3 none) ∧
      (WeightAnalysis.ofNorms [1, 10, 11]).flaggedClasses = [0] ∧
      ¬ FlagsLarge [1, 10, 11] (WeightAnalysis.ofNorms [1, 10, 11]).flaggedClasses := by
  refine ⟨by decide +kernel, ?_, by decide +kernel, ?_⟩
  · rw [flagsSmall_iff _ (by decide), NeuralCleanse.sweepSizes_ofSizes]
    decide +kernel
  · rw [flagsLarge_iff (WeightAnalysis.finalLinear_ofNorms _)]
    decide +kernel

/-! ## Majorities, order and scale -/

/-- The documented bound on a full sweep. -/
theorem length_sweep_flaggedClasses_le {μ : Type} (nc : NeuralCleanse μ)
    (hn : 3 ≤ nc.numClasses) (epochs : ℕ) :
    (nc.detect epochs none).flaggedClasses.length ≤ nc.numClasses / 2 := by
  have hdistance : medianAbsDev nc.sweepSizes ≤ NeuralCleanse.flagDistance nc.sweepSizes := by
    have hpos := NeuralCleanse.flooredMad_pos nc.sweepSizes
    have hle := NeuralCleanse.le_flooredMad nc.sweepSizes
    rw [NeuralCleanse.flagDistance]
    linarith
  have hhalf := countP_scores_le (NeuralCleanse.lt_index_iff nc.sweepSizes) hdistance
  rw [nc.length_sweepSizes] at hhalf
  rw [nc.detect_sweep hn, List.length_map, length_whereAbove]
  exact hhalf

theorem countP_anomalyIndices_le (norms : List ℚ) :
    (WeightAnalysis.anomalyIndices norms).countP (18 / 10 < ·) ≤ norms.length / 2 := by
  by_cases hmad : medianAbsDev norms = 0
  · rw [WeightAnalysis.anomalyIndices_of_eq_zero hmad]
    exact Nat.zero_le _
  · have hpos : 0 < medianAbsDev norms := (medianAbsDev_nonneg norms).lt_of_ne' hmad
    have hdistance : medianAbsDev norms ≤ 18 / 10 * medianAbsDev norms := by linarith
    rw [WeightAnalysis.anomalyIndices_eq_map_deviations hmad]
    exact countP_scores_le (WeightAnalysis.lt_index_iff hmad) hdistance

/-- Norms in another order have the same indices in another order. -/
theorem anomalyIndices_perm {norms norms' : List ℚ} (h : norms.Perm norms') :
    (WeightAnalysis.anomalyIndices norms).Perm (WeightAnalysis.anomalyIndices norms') := by
  have hmads := medianAbsDev_perm h
  by_cases hmad : medianAbsDev norms = 0
  · rw [WeightAnalysis.anomalyIndices_of_eq_zero hmad,
      WeightAnalysis.anomalyIndices_of_eq_zero (hmads.symm.trans hmad)]
  · rw [WeightAnalysis.anomalyIndices_eq_map_deviations hmad,
      WeightAnalysis.anomalyIndices_eq_map_deviations (hmads ▸ hmad), hmads]
    exact (deviations_perm h).map _

/-- The indices move with the norms: position `i` of the permuted list has the index that position
`σ i` had. -/
theorem getElem?_anomalyIndices_comp {n : ℕ} (f : Fin n → ℚ) (σ : Equiv.Perm (Fin n)) (i : Fin n) :
    (WeightAnalysis.anomalyIndices (List.ofFn (f ∘ σ)))[i.val]? =
      (WeightAnalysis.anomalyIndices (List.ofFn f))[(σ i).val]? := by
  have hperm : (List.ofFn (f ∘ σ)).Perm (List.ofFn f) := Equiv.Perm.ofFn_comp_perm σ f
  have hmads := medianAbsDev_perm hperm
  by_cases hmad : medianAbsDev (List.ofFn f) = 0
  · rw [WeightAnalysis.anomalyIndices_of_eq_zero hmad,
      WeightAnalysis.anomalyIndices_of_eq_zero (hmads.trans hmad)]
    rfl
  · rw [WeightAnalysis.anomalyIndices_of_ne_zero hmad,
      WeightAnalysis.anomalyIndices_of_ne_zero (hmads ▸ hmad), hmads, median_perm hperm]
    simp

theorem anomalyIndices_scale {c : ℚ} (hc : 0 < c) (norms : List ℚ) :
    WeightAnalysis.anomalyIndices (norms.map (c * ·)) = WeightAnalysis.anomalyIndices norms := by
  by_cases hmad : medianAbsDev norms = 0
  · have hscaled : medianAbsDev (norms.map (c * ·)) = 0 := by
      rw [medianAbsDev_map_mul hc, hmad, mul_zero]
    rw [WeightAnalysis.anomalyIndices_of_eq_zero hmad,
      WeightAnalysis.anomalyIndices_of_eq_zero hscaled]
  · have hscaled : medianAbsDev (norms.map (c * ·)) ≠ 0 := by
      rw [medianAbsDev_map_mul hc]
      exact mul_ne_zero hc.ne' hmad
    rw [WeightAnalysis.anomalyIndices_eq_map_deviations hmad,
      WeightAnalysis.anomalyIndices_eq_map_deviations hscaled, deviations_map_mul hc,
      medianAbsDev_map_mul hc, List.map_map]
    apply List.map_congr_left
    intro d _
    exact mul_div_mul_left d _ hc.ne'

/-- Neither rule accuses a majority, and the indices of the weight analysis follow every
permutation of the classes and ignore a positive factor of all norms. -/
theorem flags_no_majority_and_indices_invariant {μ : Type} (nc : NeuralCleanse μ)
    (hn : 3 ≤ nc.numClasses) (epochs : ℕ) {n : ℕ} (norm : Fin n → ℚ) {wa : WeightAnalysis}
    {name : String} (hlayer : finalLinear wa.modules = some (name, List.ofFn norm)) :
    (nc.detect epochs none).flaggedClasses.length ≤ nc.numClasses / 2 ∧
    wa.detect.countP (18 / 10 < ·) ≤ n / 2 ∧
    (∀ (σ : Equiv.Perm (Fin n)) (wa' : WeightAnalysis) (name' : String),
      finalLinear wa'.modules = some (name', List.ofFn (norm ∘ σ)) →
        wa'.detect.length = wa.detect.length ∧
          ∀ i : Fin n, wa'.detect[i.val]? = wa.detect[(σ i).val]?) ∧
    (∀ (c : ℚ) (wa' : WeightAnalysis) (name' : String), 0 < c →
      finalLinear wa'.modules = some (name', (List.ofFn norm).map (c * ·)) →
        wa'.detect = wa.detect) := by
  have hdetect := WeightAnalysis.detect_of_finalLinear hlayer
  refine ⟨length_sweep_flaggedClasses_le nc hn epochs, ?_, ?_, ?_⟩
  · have hcount := countP_anomalyIndices_le (List.ofFn norm)
    rw [List.length_ofFn] at hcount
    rwa [hdetect]
  · intro σ wa' name' hlayer'
    rw [hdetect, WeightAnalysis.detect_of_finalLinear hlayer']
    have hperm := anomalyIndices_perm (Equiv.Perm.ofFn_comp_perm σ norm)
    exact ⟨hperm.length_eq, getElem?_anomalyIndices_comp norm σ⟩
  · intro c wa' name' hc hlayer'
    rw [hdetect, WeightAnalysis.detect_of_finalLinear hlayer']
    exact anomalyIndices_scale hc _

/-- Both rules on lists that they flag: a permutation and a factor on the second. -/
theorem flags_no_majority_twoSided :
    ((NeuralCleanse.ofSizes NeuralCleanse.twoSided).detect 3 none).flaggedClasses.length ≤ 2 ∧
      (WeightAnalysis.ofNorms [9, 3, 2, 1]).detect[0]? =
        (WeightAnalysis.ofNorms [1, 2, 3, 9]).detect[3]? ∧
      (WeightAnalysis.ofNorms [2, 4, 6, 18]).detect =
        (WeightAnalysis.ofNorms [1, 2, 3, 9]).detect := by
  obtain ⟨hsweep, -, hperm, hscale⟩ := flags_no_majority_and_indices_invariant
    (NeuralCleanse.ofSizes NeuralCleanse.twoSided) (by decide) 3 ![1, 2, 3, 9]
    (WeightAnalysis.finalLinear_ofNorms [1, 2, 3, 9])
  refine ⟨hsweep, ?_, ?_⟩
  · exact (hperm Fin.revPerm _ "fc" (WeightAnalysis.finalLinear_ofNorms [9, 3, 2, 1])).2 0
  · exact hscale 2 _ "fc" (by norm_num) (by decide +kernel)

end MadRules

end TrojanDetection.Defenses
