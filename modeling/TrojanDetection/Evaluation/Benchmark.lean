import TrojanDetection.Service.ScanTask
import TrojanDetection.Defenses.NeuralCleanse

/-!
# The evaluators (`evaluate_fusion_framework.py`, `audit_real_world_model.py`)

Both evaluators run the detectors of the scan task and fuse their outputs, but derive the telemetry
themselves. For Neural Cleanse they recompute the MAD anomaly indices of the mask sizes, where the
scan task draws a random number once a class is flagged. The two routes give the same risk, and the
scan task's risk does not depend on the draw, exactly for the size lists in which no class is
flagged (`sameNeuralCleanseRisk_iff`).
-/

set_option autoImplicit false

namespace TrojanDetection.Evaluation.Benchmark

open TrojanDetection.Library.RobustStatistics
open TrojanDetection.Defenses
open TrojanDetection.Defenses.RiskFusion
open TrojanDetection.Service.ScanTask

/-- `anomaly_indices if len(sizes) > 0 else []`. -/
def anomalyIndices (sizes : List ℚ) : List ℚ :=
  if sizes.length > 0 then NeuralCleanse.anomalyIndex sizes else []

/-- The detector outputs of an evaluation besides Neural Cleanse: the entropies of the first ten
clean and poisoned samples, and the silhouette score. -/
structure EvaluatorRun where
  cleanEntropies : List ℚ
  poisonedEntropies : List ℚ
  clusteringScore : ℚ

namespace EvaluatorRun

/-- Halfway between the two mean entropies. -/
def threshold (run : EvaluatorRun) : ℚ := (mean run.cleanEntropies + mean run.poisonedEntropies) / 2

/-- The share of clean samples below the threshold, out of ten. -/
def frRatio (run : EvaluatorRun) : ℚ :=
  (run.cleanEntropies.countP fun e => e < run.threshold) / 10

/-- The share of poisoned samples above the threshold, out of ten. -/
def faRatio (run : EvaluatorRun) : ℚ :=
  (run.poisonedEntropies.countP fun e => e > run.threshold) / 10

/-- The arguments of the evaluators' fusion call. -/
def telemetry {μ : Type} (run : EvaluatorRun) (nc : NeuralCleanse μ) : Telemetry where
  ncAnomalyIndices := anomalyIndices (nc.detect 1 none).maskSizes
  stripFrRatio := run.frRatio
  stripFaRatio := run.faRatio
  clusteringScore := run.clusteringScore

end EvaluatorRun

variable {μ : Type}

/-- The Neural Cleanse risk of a scan in discovery mode, with the other detectors' outcomes as in
`o` and the number `draw` drawn for the flagged classes. -/
def workerRisk (nc : NeuralCleanse μ) (o : StageOutcomes) (draw : UniformDraw) : ℚ :=
  subRisk
    { o with neuralCleanse := .ok ⟨(nc.detect 1 none).flaggedClasses, draw⟩ }.telemetry
    .neuralCleanse

/-- The Neural Cleanse risk of an evaluation. -/
def evaluatorRisk (nc : NeuralCleanse μ) (run : EvaluatorRun) : ℚ :=
  subRisk (run.telemetry nc) .neuralCleanse

/-- The scan task and the evaluators compute the same risk from the same sweep whatever is drawn,
and two scans that differ only in the draw have the same risk. -/
def SameNeuralCleanseRisk (nc : NeuralCleanse μ) : Prop :=
  (∀ o draw run, workerRisk nc o draw = evaluatorRisk nc run) ∧
    ∀ o draw draw', workerRisk nc o draw = workerRisk nc o draw'

/-- Every mask size is within the flagging distance of the median. -/
def NoOutlier (maskSizes : List ℚ) : Prop :=
  ∀ size ∈ maskSizes, |size - median maskSizes| ≤ NeuralCleanse.flagDistance maskSizes

theorem workerRisk_eq (nc : NeuralCleanse μ) (o : StageOutcomes) (draw : UniformDraw) :
    workerRisk nc o draw =
      normalizeNeuralCleanse (ncIndices (nc.detect 1 none).flaggedClasses draw) := by
  rw [workerRisk, subRisk_telemetry]
  rfl

theorem evaluatorRisk_eq (nc : NeuralCleanse μ) (hn : 3 ≤ nc.numClasses) (run : EvaluatorRun) :
    evaluatorRisk nc run = normalizeNeuralCleanse (NeuralCleanse.anomalyIndex nc.sweepSizes) := by
  have hpos : nc.sweepSizes.length > 0 := by
    rw [NeuralCleanse.length_sweepSizes]
    omega
  show normalizeNeuralCleanse (anomalyIndices (nc.detect 1 none).maskSizes) = _
  rw [nc.detect_sweep hn, anomalyIndices, if_pos hpos]

/-- No index is above `1.5` exactly when no size is beyond the flagging distance. -/
theorem forall_anomalyIndex_le_iff (maskSizes : List ℚ) :
    (∀ x ∈ NeuralCleanse.anomalyIndex maskSizes, x ≤ 3 / 2) ↔ NoOutlier maskSizes := by
  simp only [NeuralCleanse.anomalyIndex, deviations, List.map_map, List.forall_mem_map, NoOutlier,
    Function.comp_apply]
  refine forall₂_congr fun size _ => ?_
  rw [← not_lt, ← not_lt, NeuralCleanse.lt_index_iff]

theorem flaggedClasses_eq_nil_iff (nc : NeuralCleanse μ) (hn : 3 ≤ nc.numClasses) :
    (nc.detect 1 none).flaggedClasses = [] ↔ NoOutlier nc.sweepSizes := by
  rw [nc.detect_sweep hn, List.map_eq_nil_iff, whereAbove_eq_nil_iff, forall_anomalyIndex_le_iff]

/-- The draw `2.5`. -/
def lowDraw : UniformDraw := ⟨5 / 2, by norm_num, by norm_num⟩

theorem three_mem_range : 5 / 2 ≤ (3 : ℚ) ∧ (3 : ℚ) < 4 := by norm_num

/-- The draw `3`. -/
def highDraw : UniformDraw := ⟨3, three_mem_range.1, three_mem_range.2⟩

/-- For every full sweep over at least three classes: the two routes to the Neural Cleanse risk
agree for every draw exactly when no mask size is beyond the flagging distance from the median. -/
theorem sameNeuralCleanseRisk_iff (nc : NeuralCleanse μ) (hn : 3 ≤ nc.numClasses) :
    SameNeuralCleanseRisk nc ↔ NoOutlier nc.sweepSizes := by
  constructor
  · rintro ⟨-, hdraw⟩
    rw [← flaggedClasses_eq_nil_iff nc hn]
    by_contra hflagged
    have hlen : (nc.detect 1 none).flaggedClasses.length > 0 := List.length_pos_of_ne_nil hflagged
    -- The two draws have the risks 2/5 and 3/5.
    have h := hdraw quietOutcomes lowDraw highDraw
    rw [workerRisk_eq, workerRisk_eq, ncIndices, ncIndices, if_pos hlen, if_pos hlen] at h
    revert h
    decide +kernel
  · intro hno
    have hzero : ∀ o draw, workerRisk nc o draw = 0 := by
      intro o draw
      rw [workerRisk_eq, (flaggedClasses_eq_nil_iff nc hn).2 hno]
      rfl
    have heval : ∀ run, evaluatorRisk nc run = 0 := by
      intro run
      rw [evaluatorRisk_eq nc hn]
      exact (normalizeIndices_eq_zero_iff (by norm_num)).2 ((forall_anomalyIndex_le_iff _).2 hno)
    exact ⟨fun o draw run => (hzero o draw).trans (heval run).symm,
      fun o draw draw' => (hzero o draw).trans (hzero o draw').symm⟩

/-- Three equal sizes have no outlier. -/
theorem sameNeuralCleanseRisk_equal_sizes :
    SameNeuralCleanseRisk (NeuralCleanse.ofSizes [5, 5, 5]) := by
  rw [sameNeuralCleanseRisk_iff _ (by decide), NeuralCleanse.sweepSizes_ofSizes, NoOutlier]
  decide +kernel

/-- The sizes `1, 10, 11, 12` have an index of about `6.4`; with the draw `2.5` the scan task's risk
is `2/5`, and with the draw `3` it is `3/5`. -/
theorem neuralCleanse_risk_depends_on_draw :
    ¬ SameNeuralCleanseRisk (NeuralCleanse.ofSizes [1, 10, 11, 12]) ∧
      workerRisk (NeuralCleanse.ofSizes [1, 10, 11, 12]) quietOutcomes lowDraw = 2 / 5 ∧
      workerRisk (NeuralCleanse.ofSizes [1, 10, 11, 12]) quietOutcomes highDraw = 3 / 5 := by
  have hlow : workerRisk (NeuralCleanse.ofSizes [1, 10, 11, 12]) quietOutcomes lowDraw =
      2 / 5 := by decide +kernel
  have hhigh : workerRisk (NeuralCleanse.ofSizes [1, 10, 11, 12]) quietOutcomes highDraw =
      3 / 5 := by decide +kernel
  refine ⟨fun h => ?_, hlow, hhigh⟩
  have hsame := h.2 quietOutcomes lowDraw highDraw
  rw [hlow, hhigh] at hsame
  norm_num at hsame

end TrojanDetection.Evaluation.Benchmark
