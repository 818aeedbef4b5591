import TrojanDetection.Library.ActiveMean
import TrojanDetection.Python.Basic
import Mathlib.Data.Rat.Defs
import Mathlib.Algebra.Order.Ring.Rat
import Mathlib.Algebra.BigOperators.Group.Finset.Basic
import Mathlib.Data.Fintype.Defs
import Mathlib.Tactic.NormNum

/-!
# The risk fusion engine (`defenses.py`, `RiskFusionEngine`)

Six detectors are normalised to risks in `[0, 1]` and fused. With a trained meta-classifier the
fused risk is its prediction; without one, or when it raises, the fused risk is the weighted mean
of the positive risks. Numbers are exact rationals.

`calculateUnifiedRisk_eq` identifies the weighted path with `ActiveMean.activeMean` over the six
signals, for any positive weights.
-/

set_option autoImplicit false

namespace TrojanDetection.Defenses.RiskFusion

open TrojanDetection.Python
open TrojanDetection.Library

/-- The six signals, in the order in which the engine lists them. -/
inductive Signal
  | neuralCleanse
  | strip
  | clustering
  | weightAnalysis
  | naturalProfiler
  | gradientSimilarity
  deriving DecidableEq, Repr

namespace Signal

/-- The signal's key in the `weights` dictionary. -/
def key : Signal → String
  | neuralCleanse => "neural_cleanse"
  | strip => "strip"
  | clustering => "clustering"
  | weightAnalysis => "weight_analysis"
  | naturalProfiler => "natural_profiler"
  | gradientSimilarity => "gradient_similarity"

/-- The order of `signal_risks` and of the meta-classifier's feature vector. -/
def all : List Signal :=
  [neuralCleanse, strip, clustering, weightAnalysis, naturalProfiler, gradientSimilarity]

theorem nodup_all : all.Nodup := by decide

theorem mem_all (s : Signal) : s ∈ all := by cases s <;> decide

instance : Fintype Signal := ⟨all.toFinset, fun s => List.mem_toFinset.2 (mem_all s)⟩

theorem toFinset_all : all.toFinset = Finset.univ := rfl

end Signal

/-! ## Normalisation -/

/-- `min(max(x, 0.0), 1.0)`. -/
def clampUnit (x : ℚ) : ℚ := min (max x 0) 1

/-- The shape of the normalisers: zero below `baseline`, then linear over `span` and capped. -/
def ramp (baseline span x : ℚ) : ℚ :=
  if x < baseline then 0 else clampUnit ((x - baseline) / span)

/-- A `ramp` of the largest anomaly index; zero for an empty list. -/
def normalizeIndices (baseline span : ℚ) (anomalyIndices : List ℚ) : ℚ :=
  match anomalyIndices.max? with
  | none => 0
  | some maxIdx => ramp baseline span maxIdx

/-- `normalize_neural_cleanse`. -/
def normalizeNeuralCleanse (anomalyIndices : List ℚ) : ℚ :=
  normalizeIndices (3 / 2) (5 / 2) anomalyIndices

/-- The only normaliser that falls as its arguments grow. -/
def normalizeStrip (falseRejectionsRatio falseAcceptancesRatio : ℚ) : ℚ :=
  let avgError := (falseRejectionsRatio + falseAcceptancesRatio) / 2
  clampUnit (1 - avgError * 2)

/-- `normalize_clustering`. -/
def normalizeClustering (silhouetteScore : ℚ) : ℚ := ramp (2 / 100) (23 / 100) silhouetteScore

/-- `normalize_weight_analysis`. -/
def normalizeWeightAnalysis (anomalyIndices : List ℚ) : ℚ :=
  normalizeIndices (18 / 10) (32 / 10) anomalyIndices

/-- `normalize_gradient_similarity`. -/
def normalizeGradientSimilarity (simScore : ℚ) : ℚ := ramp (70 / 100) (30 / 100) simScore

theorem clampUnit_mono {x y : ℚ} (h : x ≤ y) : clampUnit x ≤ clampUnit y :=
  min_le_min_right 1 (max_le_max_right 0 h)

theorem clampUnit_nonneg (x : ℚ) : 0 ≤ clampUnit x :=
  le_min (le_max_right x 0) zero_le_one

theorem clampUnit_le_one (x : ℚ) : clampUnit x ≤ 1 := min_le_right _ _

theorem clampUnit_pos_iff {x : ℚ} : 0 < clampUnit x ↔ 0 < x := by
  rw [clampUnit, lt_min_iff, lt_max_iff]
  simp

section Ramp

variable {baseline span : ℚ}

theorem ramp_nonneg (x : ℚ) : 0 ≤ ramp baseline span x := by
  rw [ramp]
  split
  · exact le_refl 0
  · exact clampUnit_nonneg _

theorem ramp_le_one (x : ℚ) : ramp baseline span x ≤ 1 := by
  rw [ramp]
  split
  · exact zero_le_one
  · exact clampUnit_le_one _

/-- The jump at the baseline is no jump: the ramp starts at zero. -/
theorem ramp_of_le {x : ℚ} (h : x ≤ baseline) : ramp baseline span x = 0 := by
  rw [ramp]
  split
  · rfl
  · have hx : x = baseline := le_antisymm h (not_lt.1 ‹_›)
    rw [hx, sub_self, zero_div]
    rfl

theorem ramp_pos_iff {x : ℚ} (hspan : 0 < span) : 0 < ramp baseline span x ↔ baseline < x := by
  constructor
  · intro h
    by_contra hx
    rw [ramp_of_le (not_lt.1 hx)] at h
    exact lt_irrefl 0 h
  · intro h
    rw [ramp, if_neg (not_lt.2 h.le), clampUnit_pos_iff]
    exact div_pos (sub_pos.2 h) hspan

theorem ramp_mono {x y : ℚ} (hspan : 0 < span) (h : x ≤ y) :
    ramp baseline span x ≤ ramp baseline span y := by
  by_cases hx : x < baseline
  · rw [ramp, if_pos hx]
    exact ramp_nonneg y
  · have hy : ¬ y < baseline := fun hy => hx (lt_of_le_of_lt h hy)
    rw [ramp, ramp, if_neg hx, if_neg hy]
    exact clampUnit_mono (div_le_div_of_nonneg_right (by linarith) hspan.le)

theorem ramp_of_baseline_le {x : ℚ} (h : baseline ≤ x) (hspan : 0 < span) :
    ramp baseline span x = min ((x - baseline) / span) 1 := by
  have hnonneg : 0 ≤ (x - baseline) / span := div_nonneg (sub_nonneg.2 h) hspan.le
  rw [ramp, if_neg (not_lt.2 h), clampUnit, max_eq_left hnonneg]

/-- A reading is normalised no higher than another exactly when it carries no risk, the other is at
the cap, or it is the smaller one. -/
theorem ramp_le_ramp_iff {x y : ℚ} (hspan : 0 < span) :
    ramp baseline span x ≤ ramp baseline span y ↔
      x ≤ baseline ∨ baseline + span ≤ y ∨ x ≤ y := by
  constructor
  · intro h
    by_contra hnot
    push Not at hnot
    obtain ⟨hx, hcap, hyx⟩ := hnot
    rcases le_or_gt y baseline with hy | hy
    · rw [ramp_of_le hy] at h
      exact absurd h (not_le.2 ((ramp_pos_iff hspan).2 hx))
    · rw [ramp_of_baseline_le hx.le hspan, ramp_of_baseline_le hy.le hspan] at h
      have hlt : (y - baseline) / span < (x - baseline) / span :=
        div_lt_div_of_pos_right (by linarith) hspan
      have hone : (y - baseline) / span < 1 := (div_lt_one hspan).2 (by linarith)
      exact absurd (h.trans (min_le_left _ _)) (not_le.2 (lt_min hlt hone))
  · rintro (hx | hcap | hxy)
    · rw [ramp_of_le hx]
      exact ramp_nonneg y
    · have hone : 1 ≤ (y - baseline) / span := (one_le_div hspan).2 (by linarith)
      rw [ramp_of_baseline_le (by linarith : baseline ≤ y) hspan, min_eq_right hone]
      exact ramp_le_one x
    · exact ramp_mono hspan hxy

@[simp] theorem normalizeIndices_nil : normalizeIndices baseline span [] = 0 := rfl

theorem normalizeIndices_nonneg (xs : List ℚ) : 0 ≤ normalizeIndices baseline span xs := by
  rw [normalizeIndices]
  split
  · exact le_refl 0
  · exact ramp_nonneg _

theorem normalizeIndices_le_one (xs : List ℚ) : normalizeIndices baseline span xs ≤ 1 := by
  rw [normalizeIndices]
  split
  · exact zero_le_one
  · exact ramp_le_one _

/-- A normalised list is the ramp of an entry that no entry exceeds. -/
theorem normalizeIndices_eq_ramp (baseline span : ℚ) {xs : List ℚ} (hne : xs ≠ []) :
    ∃ m ∈ xs, (∀ x ∈ xs, x ≤ m) ∧ normalizeIndices baseline span xs = ramp baseline span m := by
  cases hm : xs.max? with
  | none => exact absurd (List.max?_eq_none_iff.1 hm) hne
  | some m =>
      obtain ⟨hmem, hle⟩ := List.max?_eq_some_iff.1 hm
      exact ⟨m, hmem, hle, by simp [normalizeIndices, hm]⟩

/-- A list whose every index is reached by the other is normalised no higher. -/
theorem normalizeIndices_mono {xs ys : List ℚ} (hspan : 0 < span)
    (h : ∀ x ∈ xs, ∃ y ∈ ys, x ≤ y) :
    normalizeIndices baseline span xs ≤ normalizeIndices baseline span ys := by
  rcases eq_or_ne xs [] with rfl | hxs
  · exact normalizeIndices_nonneg ys
  · obtain ⟨m, hm, -, hmx⟩ := normalizeIndices_eq_ramp baseline span hxs
    obtain ⟨y, hy, hmy⟩ := h m hm
    have hys : ys ≠ [] := List.ne_nil_of_mem hy
    obtain ⟨n, -, hn, hny⟩ := normalizeIndices_eq_ramp baseline span hys
    rw [hmx, hny]
    exact ramp_mono hspan (hmy.trans (hn y hy))

/-- The normalised list is zero exactly when no index is above the baseline. -/
theorem normalizeIndices_eq_zero_iff {xs : List ℚ} (hspan : 0 < span) :
    normalizeIndices baseline span xs = 0 ↔ ∀ x ∈ xs, x ≤ baseline := by
  rcases eq_or_ne xs [] with rfl | hxs
  · simp
  · obtain ⟨m, hm, hle, hmx⟩ := normalizeIndices_eq_ramp baseline span hxs
    rw [hmx]
    constructor
    · intro h x hx
      have hmb : ¬ baseline < m := fun hlt => ((ramp_pos_iff hspan).2 hlt).ne' h
      exact (hle x hx).trans (not_lt.1 hmb)
    · intro h
      exact ramp_of_le (h m hm)

end Ramp

/-! ## The engine -/

/-- The keyword arguments of `calculate_unified_risk`. -/
structure Telemetry where
  ncAnomalyIndices : List ℚ
  stripFrRatio : ℚ
  stripFaRatio : ℚ
  clusteringScore : ℚ
  waAnomalyIndices : Option (List ℚ) := none
  naturalSensitivity : ℚ := 0
  gradientSimilarity : ℚ := 0
  deriving DecidableEq, Repr

/-- The normalised risk of each signal, as reported in the fusion details. -/
def subRisk (t : Telemetry) : Signal → ℚ
  | .neuralCleanse => normalizeNeuralCleanse t.ncAnomalyIndices
  | .strip => normalizeStrip t.stripFrRatio t.stripFaRatio
  | .clustering => normalizeClustering t.clusteringScore
  | .weightAnalysis =>
      -- the argument defaults to `None`, which counts as no risk
      match t.waAnomalyIndices with
      | some anomalyIndices => normalizeWeightAnalysis anomalyIndices
      | none => 0
  -- the sensitivity has no baseline of its own
  | .naturalProfiler => clampUnit (t.naturalSensitivity * (3 / 2))
  | .gradientSimilarity => normalizeGradientSimilarity t.gradientSimilarity

/-- The trained forest is code outside the repository: `predictProba` gives the row of class
probabilities it returns for a feature vector, or the exception it raises. -/
structure RiskMetaClassifier where
  isTrained : Bool
  predictProba : List ℚ → Except PyError (List ℚ)

/-- `predict_risk`: the probability of class 1. -/
def RiskMetaClassifier.predictRisk (clf : RiskMetaClassifier) (features : List ℚ) :
    Except PyError ℚ :=
  if clf.isTrained then do
    let probs ← clf.predictProba features
    match probs with
    | _ :: p :: _ => .ok p
    -- a forest fitted on one label has a single column
    | _ => .error .indexError
  else
    .error (.valueError "MetaClassifier is not trained yet!")

/-- The `weights` dictionary; keys outside the six signals are never read. -/
abbrev Weights := Signal → Option ℚ

/-- The weights of an engine built without a `weights` argument. -/
def defaultWeight : Signal → ℚ
  | .neuralCleanse => 20 / 100
  | .strip => 20 / 100
  | .clustering => 15 / 100
  | .weightAnalysis => 15 / 100
  | .naturalProfiler => 15 / 100
  | .gradientSimilarity => 15 / 100

/-- The engine: its weights and the classifier that may replace the weighted mean. -/
structure RiskFusionEngine where
  weights : Weights := fun s => some (defaultWeight s)
  useMetaClassifier : Bool := false
  metaClassifier : Option RiskMetaClassifier := none

/-- The value of `details['used_meta_classifier']`. -/
inductive MetaUse
  | used
  | notUsed
  | fallbackConfidenceWeighted
  deriving DecidableEq, Repr

/-- What the engine reports next to the score. -/
structure FusionDetails where
  risk : Signal → ℚ
  usedMetaClassifier : MetaUse

namespace RiskFusionEngine

/-- `weights[key]`, or `weights.get(key, 0.15)` for the two signals added last. -/
def weightOf (engine : RiskFusionEngine) (s : Signal) : Except PyError ℚ :=
  match s, engine.weights s with
  | _, some w => .ok w
  -- the defaults of `get`
  | .naturalProfiler, none => .ok (15 / 100)
  | .gradientSimilarity, none => .ok (15 / 100)
  | s, none => .error (.keyError s.key)

/-- The risk of every signal with its weight; a missing weight raises. -/
def signalRisks (engine : RiskFusionEngine) (t : Telemetry) : Except PyError (List (ℚ × ℚ)) :=
  Signal.all.mapM fun s => do
    let w ← engine.weightOf s
    pure (subRisk t s, w)

/-- The classifier that the engine consults, if any. -/
def consulted (engine : RiskFusionEngine) : Option RiskMetaClassifier :=
  if engine.useMetaClassifier then engine.metaClassifier.filter (·.isTrained) else none

end RiskFusionEngine

/-- Confidence-weighted fusion: only signals that fired are counted. -/
def confidenceWeighted (signalRisks : List (ℚ × ℚ)) : Except PyError ℚ :=
  let activeSignals := signalRisks.filter fun p => 0 < p.1
  -- nothing fired: no evidence is no risk
  if activeSignals.isEmpty then .ok 0
  else
    let totalWeight := (activeSignals.map Prod.snd).sum
    -- a sum that has become a NumPy float gives `nan` here instead of raising
    if totalWeight = 0 then .error .zeroDivisionError
    else .ok ((activeSignals.map fun p => p.1 * p.2).sum / totalWeight)

/-- The feature vector given to the meta-classifier. -/
def features (t : Telemetry) : List ℚ := Signal.all.map (subRisk t)

namespace RiskFusionEngine

/-- `RiskFusionEngine.calculate_unified_risk`. -/
def calculateUnifiedRisk (engine : RiskFusionEngine) (t : Telemetry) :
    Except PyError (ℚ × FusionDetails) := do
  let signals ← engine.signalRisks t
  match engine.consulted with
  | some clf =>
      match clf.predictRisk (features t) with
      | .ok finalRisk => pure (finalRisk, ⟨subRisk t, .used⟩)
      -- any exception of the classifier falls back to the weighted mean
      | .error _ =>
          let finalRisk ← confidenceWeighted signals
          pure (finalRisk, ⟨subRisk t, .fallbackConfidenceWeighted⟩)
  | none =>
      let finalRisk ← confidenceWeighted signals
      pure (finalRisk, ⟨subRisk t, .notUsed⟩)

/-- The engine takes the weighted path on `t`: no trained classifier is consulted, or the one
consulted raises. -/
def WeightedPath (engine : RiskFusionEngine) (t : Telemetry) : Prop :=
  ∀ clf, engine.consulted = some clf → ∃ e, clf.predictRisk (features t) = .error e

/-- How the details record a weighted path. -/
def weightedUse (engine : RiskFusionEngine) : MetaUse :=
  if engine.consulted.isSome then .fallbackConfidenceWeighted else .notUsed

end RiskFusionEngine

/-! ## The weighted path -/

theorem defaultWeight_pos (s : Signal) : 0 < defaultWeight s := by
  cases s <;> norm_num [defaultWeight]

/-- Sums over the listed signals are sums over the set of signals. -/
theorem sum_filter_all (p : Signal → Prop) [DecidablePred p] (f : Signal → ℚ) :
    ((Signal.all.filter fun s => p s).map f).sum = ∑ s ∈ Finset.univ.filter p, f s := by
  rw [← List.sum_toFinset f (Signal.nodup_all.filter _), List.toFinset_filter,
    Signal.toFinset_all]
  simp

/-- The outcome of the fusion of risks `r` with weights `w`: zero if nothing fired, an exception if
the firing signals have no weight, and else the mean over the firing signals. -/
theorem confidenceWeighted_map (r w : Signal → ℚ) :
    confidenceWeighted (Signal.all.map fun s => (r s, w s)) =
      if ActiveMean.fired Finset.univ r = ∅ then .ok 0
      else if ∑ s ∈ ActiveMean.fired Finset.univ r, w s = 0 then .error .zeroDivisionError
      else .ok (ActiveMean.activeMean Finset.univ r w) := by
  have hactive : (Signal.all.map fun s => (r s, w s)).filter (fun p => 0 < p.1) =
      (Signal.all.filter fun s => 0 < r s).map fun s => (r s, w s) := by
    rw [List.filter_map]
    rfl
  have hweights : (((Signal.all.filter fun s => 0 < r s).map fun s => (r s, w s)).map
      Prod.snd).sum = ∑ s ∈ ActiveMean.fired Finset.univ r, w s := by
    rw [List.map_map]
    exact sum_filter_all (fun s => 0 < r s) w
  have hvalues : (((Signal.all.filter fun s => 0 < r s).map fun s => (r s, w s)).map
      fun p => p.1 * p.2).sum = ∑ s ∈ ActiveMean.fired Finset.univ r, r s * w s := by
    rw [List.map_map]
    exact sum_filter_all (fun s => 0 < r s) fun s => r s * w s
  have hempty : ((Signal.all.filter fun s => 0 < r s).map fun s => (r s, w s)).isEmpty = true ↔
      ActiveMean.fired Finset.univ r = ∅ := by
    rw [List.isEmpty_iff, List.map_eq_nil_iff, List.filter_eq_nil_iff,
      Finset.eq_empty_iff_forall_notMem]
    simp [Signal.mem_all]
  rw [confidenceWeighted]
  simp only [hactive, hweights, hvalues, hempty]
  rfl

/-- The fusion of risks `r` with positive weights `w` is the mean over the firing signals. -/
theorem confidenceWeighted_eq (r w : Signal → ℚ) (hw : ∀ s, 0 < w s) :
    confidenceWeighted (Signal.all.map fun s => (r s, w s)) =
      .ok (ActiveMean.activeMean Finset.univ r w) := by
  rw [confidenceWeighted_map]
  split
  · -- the code returns zero without dividing, as the mean over no index does
    next hempty => rw [ActiveMean.activeMean_of_fired_eq_empty w hempty]
  · -- positive weights of a firing signal keep the divisor from zero
    next hne =>
      have hpos : 0 < ∑ s ∈ ActiveMean.fired Finset.univ r, w s :=
        ActiveMean.sum_weight_pos (fun s _ => hw s) (Finset.nonempty_iff_ne_empty.2 hne)
      rw [if_neg hpos.ne']

namespace RiskFusionEngine

theorem signalRisks_eq {engine : RiskFusionEngine} {w : Signal → ℚ}
    (h : engine.weights = fun s => some (w s)) (t : Telemetry) :
    engine.signalRisks t = .ok (Signal.all.map fun s => (subRisk t s, w s)) := by
  have hweight : ∀ s, engine.weightOf s = .ok (w s) := by
    intro s
    rw [weightOf]
    simp only [h]
  simp only [signalRisks, hweight]
  rfl

/-- On the weighted path the engine returns what the fusion does, with the six sub-risks. -/
theorem calculateUnifiedRisk_weighted {engine : RiskFusionEngine} {w : Signal → ℚ}
    (h : engine.weights = fun s => some (w s)) {t : Telemetry} (hpath : engine.WeightedPath t) :
    engine.calculateUnifiedRisk t =
      (confidenceWeighted (Signal.all.map fun s => (subRisk t s, w s))).map
        fun finalRisk => (finalRisk, ⟨subRisk t, engine.weightedUse⟩) := by
  rw [calculateUnifiedRisk, signalRisks_eq h, weightedUse]
  cases hc : engine.consulted with
  | none =>
      simp only [bind, Except.bind]
      cases confidenceWeighted (Signal.all.map fun s => (subRisk t s, w s)) <;> rfl
  | some clf =>
      obtain ⟨e, he⟩ := hpath clf hc
      simp only [bind, Except.bind, he]
      cases confidenceWeighted (Signal.all.map fun s => (subRisk t s, w s)) <;> rfl

/-- On the weighted path with positive weights the engine returns the mean over the firing
signals, and the six sub-risks. -/
theorem calculateUnifiedRisk_eq {engine : RiskFusionEngine} {w : Signal → ℚ}
    (h : engine.weights = fun s => some (w s)) (hw : ∀ s, 0 < w s) {t : Telemetry}
    (hpath : engine.WeightedPath t) :
    engine.calculateUnifiedRisk t =
      .ok (ActiveMean.activeMean Finset.univ (subRisk t) w, ⟨subRisk t, engine.weightedUse⟩) := by
  rw [calculateUnifiedRisk_weighted h hpath, confidenceWeighted_eq (subRisk t) w hw]
  rfl

end RiskFusionEngine

end TrojanDetection.Defenses.RiskFusion
