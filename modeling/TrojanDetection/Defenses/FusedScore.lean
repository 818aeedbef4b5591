import TrojanDetection.Defenses.RiskFusion
import Mathlib.Order.Bounds.Basic

/-!
# The fused risk as a score (`defenses.py`, `RiskFusionEngine.calculate_unified_risk`)

On the weighted path with positive weights the final risk is a convex combination of the positive
sub-risks: it lies between the smallest and the largest of them, vanishes only with all of them and
does not depend on the scale of the weights (`calculateUnifiedRisk_convex`).

A weight of zero is another matter. The signal still counts as active once it fires, and if no other
signal fires the total weight is zero and the division raises. Two telemetries that differ in a
signal of weight zero give the same risk exactly when a weighted signal fires, or nothing does
(`ignoresZeroWeight_iff`).
-/

set_option autoImplicit false

namespace TrojanDetection.Defenses.RiskFusion

open TrojanDetection.Library
open TrojanDetection.Python

/-! ## Sub-risks -/

theorem subRisk_nonneg (t : Telemetry) (s : Signal) : 0 ≤ subRisk t s := by
  cases s with
  | neuralCleanse => exact normalizeIndices_nonneg _
  | strip => exact clampUnit_nonneg _
  | clustering => exact ramp_nonneg _
  | weightAnalysis =>
      simp only [subRisk]
      split
      · exact normalizeIndices_nonneg _
      · exact le_refl 0
  | naturalProfiler => exact clampUnit_nonneg _
  | gradientSimilarity => exact ramp_nonneg _

theorem subRisk_le_one (t : Telemetry) (s : Signal) : subRisk t s ≤ 1 := by
  cases s with
  | neuralCleanse => exact normalizeIndices_le_one _
  | strip => exact clampUnit_le_one _
  | clustering => exact ramp_le_one _
  | weightAnalysis =>
      simp only [subRisk]
      split
      · exact normalizeIndices_le_one _
      · exact zero_le_one
  | naturalProfiler => exact clampUnit_le_one _
  | gradientSimilarity => exact ramp_le_one _

/-- The positive sub-risks of a telemetry. -/
def positiveRisks (t : Telemetry) : Set ℚ := {x | 0 < x ∧ ∃ s, subRisk t s = x}

theorem fired_eq_empty_iff (t : Telemetry) :
    ActiveMean.fired Finset.univ (subRisk t) = ∅ ↔ ∀ s, subRisk t s = 0 := by
  rw [Finset.eq_empty_iff_forall_notMem]
  apply forall_congr'
  intro s
  rw [ActiveMean.mem_fired, (subRisk_nonneg t s).lt_iff_ne']
  simp

/-! ## Positive weights -/

section PositiveWeights

variable {w : Signal → ℚ} {t : Telemetry}

/-- If some signal fires, the mean lies between the extreme positive sub-risks. -/
theorem activeMean_between (hw : ∀ s, 0 < w s) (hfires : (positiveRisks t).Nonempty) :
    ∃ lo hi, IsLeast (positiveRisks t) lo ∧ IsGreatest (positiveRisks t) hi ∧
      lo ≤ ActiveMean.activeMean Finset.univ (subRisk t) w ∧
      ActiveMean.activeMean Finset.univ (subRisk t) w ≤ hi := by
  obtain ⟨x, hx, s, rfl⟩ := hfires
  have hmem : ∀ {j}, 0 < subRisk t j → j ∈ ActiveMean.fired Finset.univ (subRisk t) :=
    fun hj => ActiveMean.mem_fired.2 ⟨Finset.mem_univ _, hj⟩
  have hpos := ActiveMean.sum_weight_pos (fun s _ => hw s) ⟨s, hmem hx⟩
  obtain ⟨i, hi, hmin, hle⟩ := ActiveMean.exists_fired_le_activeMean (fun s _ => (hw s).le) hpos
  obtain ⟨j, hj, hmax, hge⟩ := ActiveMean.exists_activeMean_le_fired (fun s _ => (hw s).le) hpos
  refine ⟨subRisk t i, subRisk t j, ⟨⟨(ActiveMean.mem_fired.1 hi).2, i, rfl⟩, ?_⟩,
    ⟨⟨(ActiveMean.mem_fired.1 hj).2, j, rfl⟩, ?_⟩, hle, hge⟩
  · rintro y ⟨hy, k, rfl⟩
    exact hmin k (hmem hy)
  · rintro y ⟨hy, k, rfl⟩
    exact hmax k (hmem hy)

theorem activeMean_le_one (hw : ∀ s, 0 < w s) :
    ActiveMean.activeMean Finset.univ (subRisk t) w ≤ 1 := by
  by_cases hnothing : ∀ s, subRisk t s = 0
  · rw [ActiveMean.activeMean_of_fired_eq_empty w ((fired_eq_empty_iff t).2 hnothing)]
    exact zero_le_one
  · obtain ⟨s, hs⟩ := not_forall.1 hnothing
    have hfires : (positiveRisks t).Nonempty :=
      ⟨subRisk t s, (subRisk_nonneg t s).lt_of_ne' hs, s, rfl⟩
    obtain ⟨-, hi, -, ⟨⟨-, i, rfl⟩, -⟩, -, hle⟩ := activeMean_between hw hfires
    exact hle.trans (subRisk_le_one t i)

/-- The engine with all weights multiplied by `k`. -/
def RiskFusionEngine.scaled (engine : RiskFusionEngine) (w : Signal → ℚ) (k : ℚ) :
    RiskFusionEngine :=
  { engine with weights := fun s => some (k * w s) }

/-- On the weighted path with positive weights the fused risk is a convex score. -/
theorem calculateUnifiedRisk_convex {engine : RiskFusionEngine}
    (h : engine.weights = fun s => some (w s)) (hw : ∀ s, 0 < w s)
    (hpath : engine.WeightedPath t) :
    (∀ s, 0 ≤ subRisk t s ∧ subRisk t s ≤ 1) ∧
      ∃ finalRisk,
        engine.calculateUnifiedRisk t = .ok (finalRisk, ⟨subRisk t, engine.weightedUse⟩) ∧
        ((positiveRisks t).Nonempty → ∃ lo hi, IsLeast (positiveRisks t) lo ∧
          IsGreatest (positiveRisks t) hi ∧ lo ≤ finalRisk ∧ finalRisk ≤ hi) ∧
        (0 ≤ finalRisk ∧ finalRisk ≤ 1) ∧
        (finalRisk = 0 ↔ ∀ s, subRisk t s = 0) ∧
        ∀ k, 0 < k →
          (engine.scaled w k).calculateUnifiedRisk t = engine.calculateUnifiedRisk t := by
  have hcalc := RiskFusionEngine.calculateUnifiedRisk_eq h hw hpath
  refine ⟨fun s => ⟨subRisk_nonneg t s, subRisk_le_one t s⟩, _, hcalc, activeMean_between hw,
    ⟨ActiveMean.activeMean_nonneg fun s _ => hw s, activeMean_le_one hw⟩, ?_, ?_⟩
  · rw [ActiveMean.activeMean_eq_zero_iff fun s _ => hw s, fired_eq_empty_iff]
  · intro k hk
    have hpath' : (engine.scaled w k).WeightedPath t := hpath
    rw [hcalc, RiskFusionEngine.calculateUnifiedRisk_eq rfl (fun s => mul_pos hk (hw s)) hpath',
      ActiveMean.activeMean_mul_weights _ _ _ hk.ne']
    rfl

end PositiveWeights

/-- Readings of STRIP and of the clustering; no other detector finds anything. -/
def twoReadings (strip score : ℚ) : Telemetry where
  ncAnomalyIndices := []
  stripFrRatio := strip
  stripFaRatio := strip
  clusteringScore := score

theorem weightedPath_of_consulted {engine : RiskFusionEngine} (h : engine.consulted = none)
    (t : Telemetry) : engine.WeightedPath t := by
  intro clf hclf
  rw [h] at hclf
  cases hclf

/-- An engine with the default weights, on readings that fire two signals. -/
theorem calculateUnifiedRisk_convex_default :
    ∃ finalRisk details,
      ({} : RiskFusionEngine).calculateUnifiedRisk (twoReadings (1 / 4) (1 / 10)) =
        .ok (finalRisk, details) ∧ 0 ≤ finalRisk ∧ finalRisk ≤ 1 := by
  have hpath : ({} : RiskFusionEngine).WeightedPath (twoReadings (1 / 4) (1 / 10)) :=
    weightedPath_of_consulted rfl _
  obtain ⟨-, finalRisk, hcalc, -, hbounds, -, -⟩ :=
    calculateUnifiedRisk_convex rfl defaultWeight_pos hpath
  exact ⟨finalRisk, _, hcalc, hbounds⟩

/-! ## Weights of zero -/

/-- The telemetries give the same arguments for a signal. -/
def SameReading (t t' : Telemetry) : Signal → Prop
  | .neuralCleanse => t.ncAnomalyIndices = t'.ncAnomalyIndices
  | .strip => t.stripFrRatio = t'.stripFrRatio ∧ t.stripFaRatio = t'.stripFaRatio
  | .clustering => t.clusteringScore = t'.clusteringScore
  | .weightAnalysis => t.waAnomalyIndices = t'.waAnomalyIndices
  | .naturalProfiler => t.naturalSensitivity = t'.naturalSensitivity
  | .gradientSimilarity => t.gradientSimilarity = t'.gradientSimilarity

theorem subRisk_congr {t t' : Telemetry} {s : Signal} (h : SameReading t t' s) :
    subRisk t s = subRisk t' s := by
  cases s with
  | neuralCleanse => exact congrArg normalizeNeuralCleanse h
  | strip => exact congrArg₂ normalizeStrip h.1 h.2
  | clustering => exact congrArg normalizeClustering h
  | weightAnalysis =>
      have hwa : t.waAnomalyIndices = t'.waAnomalyIndices := h
      simp only [subRisk, hwa]
  | naturalProfiler => exact congrArg (fun x => clampUnit (x * (3 / 2))) h
  | gradientSimilarity => exact congrArg normalizeGradientSimilarity h

/-- The engine returns on both telemetries, with one final risk. -/
def SameFinalRisk (engine : RiskFusionEngine) (t t' : Telemetry) : Prop :=
  ∃ finalRisk details details', engine.calculateUnifiedRisk t = .ok (finalRisk, details) ∧
    engine.calculateUnifiedRisk t' = .ok (finalRisk, details')

section ZeroWeights

variable {w : Signal → ℚ} {t t' : Telemetry}

/-- A signal of positive weight fires. -/
def WeightedSignalFires (w : Signal → ℚ) (t : Telemetry) : Prop := ∃ s, 0 < w s ∧ 0 < subRisk t s

/-- No signal fires, of whatever weight. -/
def NothingFires (t : Telemetry) : Prop := ∀ s, subRisk t s = 0

/-- The weights of the firing signals have a positive total exactly when a weighted one fires. -/
theorem sum_fired_pos_iff (hw : ∀ s, 0 ≤ w s) :
    0 < ∑ s ∈ ActiveMean.fired Finset.univ (subRisk t), w s ↔ WeightedSignalFires w t := by
  rw [Finset.sum_pos_iff_of_nonneg fun s _ => hw s]
  constructor
  · rintro ⟨s, hs, hpos⟩
    exact ⟨s, hpos, (ActiveMean.mem_fired.1 hs).2⟩
  · rintro ⟨s, hpos, hs⟩
    exact ⟨s, ActiveMean.mem_fired.2 ⟨Finset.mem_univ s, hs⟩, hpos⟩

/-- The fusion raises exactly when something fires but nothing of positive weight does; otherwise
it returns the mean. -/
theorem confidenceWeighted_subRisk (hw : ∀ s, 0 ≤ w s) :
    (WeightedSignalFires w t ∨ NothingFires t →
      confidenceWeighted (Signal.all.map fun s => (subRisk t s, w s)) =
        .ok (ActiveMean.activeMean Finset.univ (subRisk t) w)) ∧
    (¬ (WeightedSignalFires w t ∨ NothingFires t) →
      confidenceWeighted (Signal.all.map fun s => (subRisk t s, w s)) =
        .error .zeroDivisionError) := by
  rw [confidenceWeighted_map]
  constructor
  · rintro (hfires | hnothing)
    · have hpos := (sum_fired_pos_iff hw).2 hfires
      have hne := (Finset.nonempty_of_sum_ne_zero hpos.ne').ne_empty
      rw [if_neg hne, if_neg hpos.ne']
    · have hempty := (fired_eq_empty_iff t).2 hnothing
      rw [if_pos hempty, ActiveMean.activeMean_of_fired_eq_empty w hempty]
  · intro hneither
    obtain ⟨hfires, hnothing⟩ := not_or.1 hneither
    have hne : ActiveMean.fired Finset.univ (subRisk t) ≠ ∅ :=
      fun hempty => hnothing ((fired_eq_empty_iff t).1 hempty)
    have hnonneg : 0 ≤ ∑ s ∈ ActiveMean.fired Finset.univ (subRisk t), w s :=
      Finset.sum_nonneg fun s _ => hw s
    have hzero : ∑ s ∈ ActiveMean.fired Finset.univ (subRisk t), w s = 0 := by
      by_contra hsum
      exact hfires ((sum_fired_pos_iff hw).1 (hnonneg.lt_of_ne' hsum))
    rw [if_neg hne, if_pos hzero]

/-- A signal of positive weight does not see a change of a signal of weight zero. -/
theorem weightedSignalFires_congr {i : Signal} (hi : w i = 0)
    (hdiff : ∀ s, s ≠ i → SameReading t t' s) :
    WeightedSignalFires w t ↔ WeightedSignalFires w t' := by
  apply exists_congr
  intro s
  apply and_congr_right
  intro hs
  have hne : s ≠ i := by
    rintro rfl
    exact hs.ne' hi
  rw [subRisk_congr (hdiff s hne)]

/-- Two telemetries that differ only in a signal of weight zero have the same final risk exactly
when some signal of positive weight fires, or no signal fires in either. -/
theorem ignoresZeroWeight_iff {engine : RiskFusionEngine}
    (h : engine.weights = fun s => some (w s)) (hw : ∀ s, 0 ≤ w s) {i : Signal} (hi : w i = 0)
    (hdiff : ∀ s, s ≠ i → SameReading t t' s) (hpath : engine.WeightedPath t)
    (hpath' : engine.WeightedPath t') :
    SameFinalRisk engine t t' ↔
      WeightedSignalFires w t ∨ (NothingFires t ∧ NothingFires t') := by
  have hfires := weightedSignalFires_congr hi hdiff
  have hout := confidenceWeighted_subRisk (t := t) hw
  have hout' := confidenceWeighted_subRisk (t := t') hw
  rw [SameFinalRisk, RiskFusionEngine.calculateUnifiedRisk_weighted h hpath,
    RiskFusionEngine.calculateUnifiedRisk_weighted h hpath']
  constructor
  · rintro ⟨p, d, d', hok, hok'⟩
    -- a returned value rules out the case in which only signals of weight zero fire
    have hcase : WeightedSignalFires w t ∨ NothingFires t := by
      by_contra hneither
      rw [hout.2 hneither] at hok
      cases hok
    have hcase' : WeightedSignalFires w t' ∨ NothingFires t' := by
      by_contra hneither
      rw [hout'.2 hneither] at hok'
      cases hok'
    rcases hcase with hf | hn
    · exact Or.inl hf
    · rcases hcase' with hf' | hn'
      · exact Or.inl (hfires.2 hf')
      · exact Or.inr ⟨hn, hn'⟩
  · intro hcase
    have hcase₁ : WeightedSignalFires w t ∨ NothingFires t := hcase.imp_right And.left
    have hcase₂ : WeightedSignalFires w t' ∨ NothingFires t' := hcase.imp hfires.1 And.right
    have hmean : ActiveMean.activeMean Finset.univ (subRisk t) w =
        ActiveMean.activeMean Finset.univ (subRisk t') w := by
      apply ActiveMean.activeMean_congr_weighted
      intro s _ hs
      apply subRisk_congr
      apply hdiff
      rintro rfl
      exact hs hi
    rw [hout.1 hcase₁, hout'.1 hcase₂, hmean]
    exact ⟨_, _, _, rfl, rfl⟩

end ZeroWeights

/-! ## An engine without clustering -/

/-- The default weights, but none for the clustering. -/
def weightsWithoutClustering (s : Signal) : ℚ := if s = .clustering then 0 else defaultWeight s

/-- An engine whose weights leave the clustering signal out. -/
def engineWithoutClustering : RiskFusionEngine where
  weights s := some (weightsWithoutClustering s)

theorem weightsWithoutClustering_nonneg (s : Signal) : 0 ≤ weightsWithoutClustering s := by
  rw [weightsWithoutClustering]
  split
  · exact le_refl 0
  · exact (defaultWeight_pos s).le

theorem sameReading_twoReadings (strip score score' : ℚ) : ∀ s, s ≠ Signal.clustering →
    SameReading (twoReadings strip score) (twoReadings strip score') s := by
  intro s hs
  cases s with
  | neuralCleanse => rfl
  | strip => exact ⟨rfl, rfl⟩
  | clustering => exact absurd rfl hs
  | weightAnalysis => rfl
  | naturalProfiler => rfl
  | gradientSimilarity => rfl

/-- While STRIP fires, the score of the unweighted clustering changes nothing. -/
theorem ignoresZeroWeight_strip_fires :
    SameFinalRisk engineWithoutClustering (twoReadings 0 0) (twoReadings 0 (1 / 4)) := by
  apply (ignoresZeroWeight_iff rfl weightsWithoutClustering_nonneg (by decide)
    (sameReading_twoReadings 0 0 (1 / 4)) (weightedPath_of_consulted rfl _)
    (weightedPath_of_consulted rfl _)).2
  exact Or.inl ⟨.strip, by decide +kernel, by decide +kernel⟩

/-- If nothing else fires, a score of the unweighted clustering makes the engine divide by zero. -/
theorem not_ignoresZeroWeight :
    (∀ s, 0 ≤ weightsWithoutClustering s) ∧ 0 < ∑ s, weightsWithoutClustering s ∧
      weightsWithoutClustering .clustering = 0 ∧
      (∀ s, s ≠ Signal.clustering →
        SameReading (twoReadings (1 / 2) 0) (twoReadings (1 / 2) (1 / 4)) s) ∧
      (engineWithoutClustering.calculateUnifiedRisk (twoReadings (1 / 2) 0)).map Prod.fst = .ok 0 ∧
      engineWithoutClustering.calculateUnifiedRisk (twoReadings (1 / 2) (1 / 4)) =
        .error .zeroDivisionError := by
  refine ⟨weightsWithoutClustering_nonneg, by decide +kernel, rfl,
    sameReading_twoReadings (1 / 2) 0 (1 / 4), by decide +kernel, ?_⟩
  have hraises : confidenceWeighted (Signal.all.map fun s =>
      (subRisk (twoReadings (1 / 2) (1 / 4)) s, weightsWithoutClustering s)) =
        .error .zeroDivisionError := by
    decide +kernel
  rw [RiskFusionEngine.calculateUnifiedRisk_weighted rfl (weightedPath_of_consulted rfl _), hraises]
  rfl

end TrojanDetection.Defenses.RiskFusion
