import TrojanDetection.Service.Verdict
import TrojanDetection.Library.RobustStatistics

/-!
# The scan task after loading (`celery_worker.py`, `run_model_scan_task`)

Six detectors run one after the other, each inside its own `try`. A detector that raises is
replaced by fallback values in `details`. The fusion engine reads `details`, its own details are
merged back into it, and a list of findings is written from the merged dictionary.

The fallback of five detectors is neutral, but STRIP's fallback ratios `0.0` are the ratios of a
perfect separation, so a failed STRIP counts as certain infection: failures are neutral exactly
when STRIP ran (`failuresNeutral_iff`). The findings agree with the fused risks for every signal but
STRIP, where they disagree on every run (`signalAgrees_iff`, `not_narrativeAgrees`).
-/

set_option autoImplicit false

namespace TrojanDetection.Service.ScanTask

open TrojanDetection.Python
open TrojanDetection.Library
open TrojanDetection.Library.RobustStatistics
open TrojanDetection.Defenses.RiskFusion
open TrojanDetection.Service.Verdict

/-! ## Detector outcomes and the details dictionary -/

/-- A value of `np.random.uniform(2.5, 4.0)`. -/
structure UniformDraw where
  val : ℚ
  lo : 5 / 2 ≤ val
  hi : val < 4

/-- The flagged classes, and the number drawn in place of their anomaly index. -/
structure NeuralCleanseOutcome where
  flagged : List ℤ
  draw : UniformDraw

/-- What each detector returned, or the exception it raised. -/
structure StageOutcomes where
  neuralCleanse : Except PyError NeuralCleanseOutcome
  strip : Except PyError (List ℚ)
  clustering : Except PyError (ℚ × Option String)
  weightAnalysis : Except PyError (List ℚ)
  naturalProfiler : Except PyError ℚ
  gradientSimilarity : Except PyError ℚ

/-- The raw entries of `details`, and the fusion details once they are merged in. -/
structure Details where
  ncAnomalyIndices : List ℚ := []
  ncFlaggedClasses : List ℤ := []
  stripFrRatio : ℚ := 0
  stripFaRatio : ℚ := 0
  clusteringSilhouetteScore : ℚ := 0
  tsnePlotB64 : Option String := none
  waAnomalyIndices : List ℚ := []
  weightAnalysisRisk : ℚ := 0
  naturalSensitivity : ℚ := 0
  gradientSimilarity : ℚ := 0
  fusion : Option FusionDetails := none

/-- The indices recorded for the flagged classes: one drawn number, whatever was flagged. -/
def ncIndices (flagged : List ℤ) (draw : UniformDraw) : List ℚ :=
  if flagged.length > 0 then [draw.val] else []

/-- What Neural Cleanse records; after an exception, that nothing was flagged. -/
def neuralCleanseStage (outcome : Except PyError NeuralCleanseOutcome) (d : Details) : Details :=
  match outcome with
  | .ok nc =>
      { d with ncAnomalyIndices := ncIndices nc.flagged nc.draw, ncFlaggedClasses := nc.flagged }
  | .error _ => { d with ncAnomalyIndices := [], ncFlaggedClasses := [] }

/-- The error ratio recorded for a list of clean entropies. -/
def stripRatio (cleanEntropies : List ℚ) : ℚ := if mean cleanEntropies > 1 then 1 / 2 else 5 / 100

/-- What STRIP records. -/
def stripStage (outcome : Except PyError (List ℚ)) (d : Details) : Details :=
  match outcome with
  | .ok cleanEntropies =>
      { d with stripFrRatio := stripRatio cleanEntropies, stripFaRatio := stripRatio cleanEntropies }
  -- a ratio of zero means a perfect separation to `normalize_strip`
  | .error _ => { d with stripFrRatio := 0, stripFaRatio := 0 }

/-- What activation clustering records. -/
def clusteringStage (outcome : Except PyError (ℚ × Option String)) (d : Details) : Details :=
  match outcome with
  | .ok (scoreAc, tsneB64) => { d with clusteringSilhouetteScore := scoreAc, tsnePlotB64 := tsneB64 }
  | .error _ => { d with clusteringSilhouetteScore := 0, tsnePlotB64 := none }

/-- What the weight analysis records: its indices, and the largest one as a risk. -/
def weightAnalysisStage (outcome : Except PyError (List ℚ)) (d : Details) : Details :=
  match outcome with
  | .ok waIndices =>
      { d with waAnomalyIndices := waIndices, weightAnalysisRisk := waIndices.max?.getD 0 }
  | .error _ => { d with waAnomalyIndices := [], weightAnalysisRisk := 0 }

/-- What the natural profiler records. -/
def naturalProfilerStage (outcome : Except PyError ℚ) (d : Details) : Details :=
  match outcome with
  | .ok sensitivity => { d with naturalSensitivity := sensitivity }
  | .error _ => { d with naturalSensitivity := 0 }

/-- What gradient similarity records. -/
def gradientSimilarityStage (outcome : Except PyError ℚ) (d : Details) : Details :=
  match outcome with
  | .ok gradSim => { d with gradientSimilarity := gradSim }
  | .error _ => { d with gradientSimilarity := 0 }

/-- `details` as the fusion engine finds it. -/
def runStages (o : StageOutcomes) : Details :=
  gradientSimilarityStage o.gradientSimilarity <| naturalProfilerStage o.naturalProfiler <|
    weightAnalysisStage o.weightAnalysis <| clusteringStage o.clustering <|
      stripStage o.strip <| neuralCleanseStage o.neuralCleanse {}

/-- The keyword arguments of the fusion call. -/
def Details.telemetry (d : Details) : Telemetry where
  ncAnomalyIndices := d.ncAnomalyIndices
  stripFrRatio := d.stripFrRatio
  stripFaRatio := d.stripFaRatio
  clusteringScore := d.clusteringSilhouetteScore
  waAnomalyIndices := some d.waAnomalyIndices
  naturalSensitivity := d.naturalSensitivity
  gradientSimilarity := d.gradientSimilarity

/-- `details.update(fusion_details)`: the key `weight_analysis_risk` is in both dictionaries, so the
raw largest index is replaced by the normalised risk. -/
def Details.update (d : Details) (f : FusionDetails) : Details :=
  { d with weightAnalysisRisk := f.risk .weightAnalysis, fusion := some f }

/-! ## Findings -/

/-- The four detectors that findings are written for. -/
inductive Method
  | neuralCleanse
  | strip
  | clusteringAnalysis
  | linearWeightAudit
  deriving DecidableEq, Repr

/-- The fusion signal of a method. -/
def Method.signal : Method → Signal
  | neuralCleanse => .neuralCleanse
  | strip => .strip
  | clusteringAnalysis => .clustering
  | linearWeightAudit => .weightAnalysis

/-- The severities of a finding. -/
inductive Severity
  | low
  | medium
  | high
  | critical
  deriving DecidableEq, Repr

/-- Severity `MEDIUM` or above. -/
def Severity.atLeastMedium : Severity → Bool
  | low => false
  | _ => true

/-- The reasoning texts, with the values substituted into them. -/
inductive Reasoning
  | persistentLatentTrigger (targetClass : ℤ) (anomalyIndex : ℚ)
  | suspiciouslyLowEntropy
  | twoDistinctClusters (featureLayerName : String) (targetClass : ℤ)
  | weakBifurcations
  | uniformActivations
  | irregularWeights
  deriving DecidableEq, Repr

/-- One entry of the forensics list. -/
structure Finding where
  method : Method
  layer : String
  reasoning : Reasoning
  severity : Severity
  deriving DecidableEq, Repr

/-- The finding of Neural Cleanse, if it recorded an index. -/
def neuralCleanseFindings (d : Details) (targetClass : ℤ) : List Finding :=
  match d.ncAnomalyIndices.max? with
  | none => []
  | some index =>
      -- a drawn index is at least 2.5, so the first branch is always taken
      [⟨.neuralCleanse, "Trigger Inversion (Feature Layer)",
        .persistentLatentTrigger targetClass index,
        if index > 18 / 10 then .critical else if index > 15 / 10 then .high else .medium⟩]

/-- The finding of STRIP. -/
def stripFindings (d : Details) : List Finding :=
  -- a large ratio is what `normalize_strip` reads as no separation
  if d.stripFrRatio > 2 / 10 then
    [⟨.strip, "Runtime Entropy (Behavior Layer)", .suspiciouslyLowEntropy, .high⟩]
  else []

/-- The finding of activation clustering. -/
def clusteringFindings (d : Details) (featureLayerName : String) (targetClass : ℤ) :
    List Finding :=
  let score := d.clusteringSilhouetteScore
  if score > 10 / 100 then
    [⟨.clusteringAnalysis, "Activation Space (Representational Layer)",
      .twoDistinctClusters featureLayerName targetClass,
      if score > 15 / 100 then .critical else .high⟩]
  else if score > 2 / 100 then
    [⟨.clusteringAnalysis, "Activation Space (Representational Layer)", .weakBifurcations,
      .medium⟩]
  else if score > 0 then
    [⟨.clusteringAnalysis, "Activation Space", .uniformActivations, .low⟩]
  else []

/-- The finding of the weight audit. -/
def weightFindings (d : Details) : List Finding :=
  -- the normalised risk, not the raw index: the update has replaced it
  if d.weightAnalysisRisk > 6 / 10 then
    [⟨.linearWeightAudit, "Static Weights (Model Layer)", .irregularWeights, .medium⟩]
  else []

/-- `forensic_analysis`, read from `details` after the update. -/
def forensicAnalysis (d : Details) (featureLayerName : String) (targetClass : ℤ) : List Finding :=
  neuralCleanseFindings d targetClass ++ stripFindings d ++
    clusteringFindings d featureLayerName targetClass ++ weightFindings d

/-! ## The task -/

/-- The engine of the task: default weights, and the classifier that was on disk. -/
def workerEngine (clf : RiskMetaClassifier) : RiskFusionEngine :=
  { useMetaClassifier := true, metaClassifier := some clf }

/-- The returned dictionary, without the two heatmaps. -/
structure ScanResult where
  fusionRiskScore : ℚ
  details : Details
  forensicAnalysis : List Finding
  isOnnx : Bool

/-- The class used after Neural Cleanse: the requested one, or in discovery mode the first flagged
class, or `0`. -/
def resolveTargetClass (requested : ℤ) : Except PyError NeuralCleanseOutcome → ℤ
  | .ok nc => if requested = -1 then nc.flagged.headD 0 else requested
  | .error _ => if requested = -1 then 0 else requested

/-- The task from the detectors to the findings. -/
def scan (clf : RiskMetaClassifier) (isOnnx : Bool) (featureLayerName : String) (requested : ℤ)
    (o : StageOutcomes) : Except PyError ScanResult := do
  let d := runStages o
  let (fusionScore, fusionDetails) ← (workerEngine clf).calculateUnifiedRisk d.telemetry
  -- findings are written from the merged dictionary
  let d := d.update fusionDetails
  pure ⟨fusionScore, d,
    forensicAnalysis d featureLayerName (resolveTargetClass requested o.neuralCleanse), isOnnx⟩

/-! ## Failed detectors -/

/-- The detector of signal `s` raised. -/
def StageOutcomes.failed (o : StageOutcomes) : Signal → Bool
  | .neuralCleanse => raised o.neuralCleanse
  | .strip => raised o.strip
  | .clustering => raised o.clustering
  | .weightAnalysis => raised o.weightAnalysis
  | .naturalProfiler => raised o.naturalProfiler
  | .gradientSimilarity => raised o.gradientSimilarity

/-- The signals whose detector returned. -/
def StageOutcomes.survivors (o : StageOutcomes) : Finset Signal :=
  Finset.univ.filter fun s => o.failed s = false

/-- The telemetry that the stages hand to the fusion engine. -/
def StageOutcomes.telemetry (o : StageOutcomes) : Telemetry := (runStages o).telemetry

/-! The values the stages record, by outcome. -/

/-- The indices in the record of Neural Cleanse. -/
def recordedIndices : Except PyError NeuralCleanseOutcome → List ℚ
  | .ok nc => ncIndices nc.flagged nc.draw
  | .error _ => []

/-- The ratio in the record of STRIP. -/
def recordedRatio : Except PyError (List ℚ) → ℚ
  | .ok cleanEntropies => stripRatio cleanEntropies
  | .error _ => 0

/-- The score in the record of activation clustering. -/
def recordedScore : Except PyError (ℚ × Option String) → ℚ
  | .ok (scoreAc, _) => scoreAc
  | .error _ => 0

/-- The indices in the record of the weight analysis. -/
def recordedWeights : Except PyError (List ℚ) → List ℚ
  | .ok waIndices => waIndices
  | .error _ => []

/-- The number in the record of a detector that returns one. -/
def recordedNumber : Except PyError ℚ → ℚ
  | .ok x => x
  | .error _ => 0

/-! Each stage writes its own entries and leaves the others as they are. -/

section Stages

variable (d : Details)

theorem telemetry_neuralCleanseStage (outcome : Except PyError NeuralCleanseOutcome) :
    (neuralCleanseStage outcome d).telemetry =
      { d.telemetry with ncAnomalyIndices := recordedIndices outcome } := by
  cases outcome <;> rfl

theorem telemetry_stripStage (outcome : Except PyError (List ℚ)) :
    (stripStage outcome d).telemetry =
      { d.telemetry with
        stripFrRatio := recordedRatio outcome
        stripFaRatio := recordedRatio outcome } := by
  cases outcome <;> rfl

theorem telemetry_clusteringStage (outcome : Except PyError (ℚ × Option String)) :
    (clusteringStage outcome d).telemetry =
      { d.telemetry with clusteringScore := recordedScore outcome } := by
  cases outcome <;> rfl

theorem telemetry_weightAnalysisStage (outcome : Except PyError (List ℚ)) :
    (weightAnalysisStage outcome d).telemetry =
      { d.telemetry with waAnomalyIndices := some (recordedWeights outcome) } := by
  cases outcome <;> rfl

theorem telemetry_naturalProfilerStage (outcome : Except PyError ℚ) :
    (naturalProfilerStage outcome d).telemetry =
      { d.telemetry with naturalSensitivity := recordedNumber outcome } := by
  cases outcome <;> rfl

theorem telemetry_gradientSimilarityStage (outcome : Except PyError ℚ) :
    (gradientSimilarityStage outcome d).telemetry =
      { d.telemetry with gradientSimilarity := recordedNumber outcome } := by
  cases outcome <;> rfl

end Stages

/-- What the stages hand to the fusion engine, in terms of their outcomes. -/
theorem telemetry_eq (o : StageOutcomes) : o.telemetry =
    { ncAnomalyIndices := recordedIndices o.neuralCleanse
      stripFrRatio := recordedRatio o.strip
      stripFaRatio := recordedRatio o.strip
      clusteringScore := recordedScore o.clustering
      waAnomalyIndices := some (recordedWeights o.weightAnalysis)
      naturalSensitivity := recordedNumber o.naturalProfiler
      gradientSimilarity := recordedNumber o.gradientSimilarity } := by
  rw [StageOutcomes.telemetry, runStages, telemetry_gradientSimilarityStage,
    telemetry_naturalProfilerStage, telemetry_weightAnalysisStage, telemetry_clusteringStage,
    telemetry_stripStage, telemetry_neuralCleanseStage]

/-- The fused risk of each signal in terms of its detector's outcome. -/
def stageRisk (o : StageOutcomes) : Signal → ℚ
  | .neuralCleanse => normalizeNeuralCleanse (recordedIndices o.neuralCleanse)
  | .strip => normalizeStrip (recordedRatio o.strip) (recordedRatio o.strip)
  | .clustering => normalizeClustering (recordedScore o.clustering)
  | .weightAnalysis => normalizeWeightAnalysis (recordedWeights o.weightAnalysis)
  | .naturalProfiler => clampUnit (recordedNumber o.naturalProfiler * (3 / 2))
  | .gradientSimilarity => normalizeGradientSimilarity (recordedNumber o.gradientSimilarity)

theorem subRisk_telemetry (o : StageOutcomes) (s : Signal) :
    subRisk o.telemetry s = stageRisk o s := by
  rw [telemetry_eq]
  cases s <;> rfl

/-- A failed detector has risk `0`, except STRIP, which has risk `1`. -/
theorem stageRisk_of_failed {o : StageOutcomes} {s : Signal} (h : o.failed s = true) :
    stageRisk o s = if s = .strip then 1 else 0 := by
  cases s with
  | neuralCleanse =>
      obtain ⟨e, he⟩ := raised_eq_true_iff.1 h
      simp [stageRisk, he, recordedIndices, normalizeNeuralCleanse]
  | strip =>
      obtain ⟨e, he⟩ := raised_eq_true_iff.1 h
      norm_num [stageRisk, he, recordedRatio, normalizeStrip, clampUnit]
  | clustering =>
      obtain ⟨e, he⟩ := raised_eq_true_iff.1 h
      simp only [stageRisk, he, recordedScore, reduceCtorEq, if_false]
      exact ramp_of_le (by norm_num)
  | weightAnalysis =>
      obtain ⟨e, he⟩ := raised_eq_true_iff.1 h
      simp [stageRisk, he, recordedWeights, normalizeWeightAnalysis]
  | naturalProfiler =>
      obtain ⟨e, he⟩ := raised_eq_true_iff.1 h
      simp [stageRisk, he, recordedNumber, clampUnit]
  | gradientSimilarity =>
      obtain ⟨e, he⟩ := raised_eq_true_iff.1 h
      simp only [stageRisk, he, recordedNumber, reduceCtorEq, if_false]
      exact ramp_of_le (by norm_num)

/-- The fused score is the score over the surviving detectors alone, and no failed detector has a
risk or is among the firing signals. -/
def FailuresNeutral (clf : RiskMetaClassifier) (o : StageOutcomes) : Prop :=
  ∃ score fusionDetails,
    (workerEngine clf).calculateUnifiedRisk o.telemetry = .ok (score, fusionDetails) ∧
      score = ActiveMean.activeMean o.survivors fusionDetails.risk defaultWeight ∧
      ∀ s, o.failed s = true → fusionDetails.risk s = 0 ∧ s ∉ firing o.telemetry

/-- On the weighted path, whatever detectors fail and whatever the others report, failures are
neutral exactly when STRIP is not among them. -/
theorem failuresNeutral_iff (clf : RiskMetaClassifier) (o : StageOutcomes)
    (hpath : (workerEngine clf).WeightedPath o.telemetry) :
    FailuresNeutral clf o ↔ o.failed .strip = false := by
  have hcalc := (workerEngine clf).calculateUnifiedRisk_eq rfl defaultWeight_pos hpath
  constructor
  · -- a failed STRIP has risk one
    rintro ⟨score, fusionDetails, hrun, -, hfailed⟩
    rw [hcalc] at hrun
    cases hrun
    by_contra hstrip
    have hstrip' : o.failed .strip = true := by simpa using hstrip
    have hzero : subRisk o.telemetry .strip = 0 := (hfailed .strip hstrip').1
    rw [subRisk_telemetry, stageRisk_of_failed hstrip'] at hzero
    exact one_ne_zero hzero
  · -- every other failed detector has risk zero and drops out of the mean
    intro hstrip
    have hzero : ∀ s, o.failed s = true → subRisk o.telemetry s = 0 := by
      intro s hs
      have hne : s ≠ .strip := by
        rintro rfl
        rw [hstrip] at hs
        cases hs
      rw [subRisk_telemetry, stageRisk_of_failed hs, if_neg hne]
    refine ⟨_, _, hcalc, ?_, fun s hs => ⟨hzero s hs, ?_⟩⟩
    · apply ActiveMean.activeMean_eq_of_subset _ (Finset.subset_univ _)
      intro s _ hs
      have hs' : o.failed s = true := by simpa [StageOutcomes.survivors] using hs
      exact (hzero s hs').le
    · rw [mem_firing, hzero s hs]
      exact lt_irrefl 0

/-- A classifier without a stored forest. -/
def untrainedClassifier : RiskMetaClassifier where
  isTrained := false
  predictProba _ := .error .indexError

theorem weightedPath_untrained (t : Telemetry) :
    (workerEngine untrainedClassifier).WeightedPath t := by
  intro clf h
  cases h

/-- Detectors that all return and find nothing; STRIP sees high entropies. -/
def quietOutcomes : StageOutcomes where
  neuralCleanse := .ok ⟨[], 3, by norm_num, by norm_num⟩
  strip := .ok (List.replicate 10 2)
  clustering := .ok (0, none)
  weightAnalysis := .ok []
  naturalProfiler := .ok 0
  gradientSimilarity := .ok 0

/-- Two failures that are neutral. -/
theorem failuresNeutral_quiet_without_nc_and_clustering :
    FailuresNeutral untrainedClassifier
      { quietOutcomes with
        neuralCleanse := .error .indexError
        clustering := .error (.valueError "n_samples=1 should be >= n_clusters=2.") } :=
  (failuresNeutral_iff untrainedClassifier _ (weightedPath_untrained _)).2 rfl

/-- With nothing found and STRIP failed, the fused score is `1` and the verdict is critical. -/
theorem strip_failure_is_not_neutral :
    (workerEngine untrainedClassifier).WeightedPath
        { quietOutcomes with strip := .error .indexError }.telemetry ∧
      ¬ FailuresNeutral untrainedClassifier { quietOutcomes with strip := .error .indexError } ∧
      confidenceWeighted (Signal.all.map fun s =>
          (subRisk { quietOutcomes with strip := .error .indexError }.telemetry s,
            defaultWeight s)) = .ok 1 ∧
      determineRiskLevel 1 = .critical := by
  refine ⟨weightedPath_untrained _, fun h => ?_, by decide +kernel, by decide +kernel⟩
  obtain ⟨score, fusionDetails, hrun, -, hfailed⟩ := h
  rw [(workerEngine untrainedClassifier).calculateUnifiedRisk_eq rfl defaultWeight_pos
    (weightedPath_untrained _)] at hrun
  cases hrun
  have hzero := (hfailed .strip rfl).1
  revert hzero
  decide +kernel

/-! ## Findings against risks -/

/-- A finding of method `m` with severity `MEDIUM` or above is in the list. -/
def Reported (findings : List Finding) (m : Method) : Prop :=
  ∃ f ∈ findings, f.method = m ∧ f.severity.atLeastMedium = true

theorem reported_append {xs ys : List Finding} {m : Method} :
    Reported (xs ++ ys) m ↔ Reported xs m ∨ Reported ys m := by
  simp only [Reported, List.mem_append, or_and_right, exists_or]

theorem not_reported_nil {m : Method} : ¬ Reported [] m := by
  rintro ⟨f, hf, -⟩
  exact List.not_mem_nil hf

theorem reported_singleton {f : Finding} {m : Method} :
    Reported [f] m ↔ f.method = m ∧ f.severity.atLeastMedium = true := by
  simp [Reported]

theorem reported_neuralCleanse_iff {d : Details} {targetClass : ℤ} {m : Method} :
    Reported (neuralCleanseFindings d targetClass) m ↔
      .neuralCleanse = m ∧ d.ncAnomalyIndices ≠ [] := by
  simp only [neuralCleanseFindings]
  cases h : d.ncAnomalyIndices.max? with
  | none =>
      rw [List.max?_eq_none_iff] at h
      exact iff_of_false not_reported_nil fun hm => hm.2 h
  | some index =>
      have hne : d.ncAnomalyIndices ≠ [] := by
        intro hnil
        rw [hnil] at h
        cases h
      rw [reported_singleton, and_iff_left hne]
      apply and_iff_left
      show Severity.atLeastMedium (if index > 18 / 10 then _ else if index > 15 / 10 then _ else _)
        = true
      split
      · rfl
      · split <;> rfl

theorem reported_strip_iff {d : Details} {m : Method} :
    Reported (stripFindings d) m ↔ .strip = m ∧ 2 / 10 < d.stripFrRatio := by
  rw [stripFindings]
  split
  · rw [reported_singleton]
    exact and_congr_right fun _ => iff_of_true rfl ‹_›
  · exact iff_of_false not_reported_nil fun hm => ‹¬ _› hm.2

theorem reported_clustering_iff {d : Details} {featureLayerName : String} {targetClass : ℤ}
    {m : Method} :
    Reported (clusteringFindings d featureLayerName targetClass) m ↔
      .clusteringAnalysis = m ∧ 2 / 100 < d.clusteringSilhouetteScore := by
  unfold clusteringFindings
  simp only
  split
  · have hlow : 2 / 100 < d.clusteringSilhouetteScore := by linarith
    rw [reported_singleton, and_iff_left hlow]
    apply and_iff_left
    show Severity.atLeastMedium (if d.clusteringSilhouetteScore > 15 / 100 then _ else _) = true
    split <;> rfl
  · split
    · rw [reported_singleton]
      exact and_congr_right fun _ => iff_of_true rfl ‹_›
    · refine iff_of_false ?_ fun hm => ‹¬ d.clusteringSilhouetteScore > 2 / 100› hm.2
      split
      · rw [reported_singleton]
        rintro ⟨-, h⟩
        cases h
      · exact not_reported_nil

theorem reported_weight_iff {d : Details} {m : Method} :
    Reported (weightFindings d) m ↔ .linearWeightAudit = m ∧ 6 / 10 < d.weightAnalysisRisk := by
  rw [weightFindings]
  split
  · rw [reported_singleton]
    exact and_congr_right fun _ => iff_of_true rfl ‹_›
  · exact iff_of_false not_reported_nil fun hm => ‹¬ _› hm.2

/-- When a method is reported, in terms of the dictionary after the update. -/
def reportCondition (d : Details) : Method → Prop
  | .neuralCleanse => d.ncAnomalyIndices ≠ []
  | .strip => 2 / 10 < d.stripFrRatio
  | .clusteringAnalysis => 2 / 100 < d.clusteringSilhouetteScore
  | .linearWeightAudit => 6 / 10 < d.weightAnalysisRisk

theorem reported_forensicAnalysis_iff {d : Details} {featureLayerName : String}
    {targetClass : ℤ} {m : Method} :
    Reported (forensicAnalysis d featureLayerName targetClass) m ↔ reportCondition d m := by
  simp only [forensicAnalysis, reported_append, reported_neuralCleanse_iff, reported_strip_iff,
    reported_clustering_iff, reported_weight_iff]
  cases m <;> simp [reportCondition]

/-- Findings of method `m` come only with a positive fused risk, and a fused risk of at least
`0.75` comes with one. -/
def SignalAgrees (r : ScanResult) (f : FusionDetails) (m : Method) : Prop :=
  (Reported r.forensicAnalysis m → 0 < f.risk m.signal) ∧
    (3 / 4 ≤ f.risk m.signal → Reported r.forensicAnalysis m)

/-- The findings agree with the fusion details for all four methods. -/
def NarrativeAgrees (r : ScanResult) : Prop :=
  ∃ f, r.details.fusion = some f ∧ ∀ m, SignalAgrees r f m

/-- The engine with default weights always returns, and reports the sub-risks. -/
theorem calculateUnifiedRisk_workerEngine (clf : RiskMetaClassifier) (t : Telemetry) :
    ∃ score use, (workerEngine clf).calculateUnifiedRisk t = .ok (score, ⟨subRisk t, use⟩) := by
  by_cases hpath : (workerEngine clf).WeightedPath t
  · exact ⟨_, _, (workerEngine clf).calculateUnifiedRisk_eq rfl defaultWeight_pos hpath⟩
  · rw [RiskFusionEngine.WeightedPath] at hpath
    push Not at hpath
    obtain ⟨clf', hclf, hok⟩ := hpath
    cases hp : clf'.predictRisk (features t) with
    | error e => exact absurd hp (hok e)
    | ok p =>
        refine ⟨p, .used, ?_⟩
        rw [RiskFusionEngine.calculateUnifiedRisk,
          RiskFusionEngine.signalRisks_eq (w := defaultWeight) rfl]
        simp only [bind, Except.bind, hclf, hp]
        rfl

/-- Every scan returns a result whose findings are written from the recorded telemetry. -/
theorem scan_eq (clf : RiskMetaClassifier) (isOnnx : Bool) (featureLayerName : String)
    (requested : ℤ) (o : StageOutcomes) : ∃ score use,
      scan clf isOnnx featureLayerName requested o =
        .ok ⟨score, (runStages o).update ⟨subRisk o.telemetry, use⟩,
          forensicAnalysis ((runStages o).update ⟨subRisk o.telemetry, use⟩) featureLayerName
            (resolveTargetClass requested o.neuralCleanse), isOnnx⟩ := by
  obtain ⟨score, use, hcalc⟩ := calculateUnifiedRisk_workerEngine clf o.telemetry
  refine ⟨score, use, ?_⟩
  rw [StageOutcomes.telemetry] at hcalc ⊢
  simp only [scan, bind, Except.bind, hcalc]
  rfl

/-- The report condition of each method over the outcomes of the detectors. -/
theorem reportCondition_update (o : StageOutcomes) (use : MetaUse) (m : Method) :
    reportCondition ((runStages o).update ⟨subRisk o.telemetry, use⟩) m ↔
      match m with
      | .neuralCleanse => recordedIndices o.neuralCleanse ≠ []
      | .strip => 2 / 10 < recordedRatio o.strip
      | .clusteringAnalysis => 2 / 100 < recordedScore o.clustering
      | .linearWeightAudit => 6 / 10 < stageRisk o .weightAnalysis := by
  have ht := telemetry_eq o
  cases m with
  | neuralCleanse =>
      show o.telemetry.ncAnomalyIndices ≠ [] ↔ _
      rw [ht]
  | strip =>
      show 2 / 10 < o.telemetry.stripFrRatio ↔ _
      rw [ht]
  | clusteringAnalysis =>
      show 2 / 100 < o.telemetry.clusteringScore ↔ _
      rw [ht]
  | linearWeightAudit =>
      show 6 / 10 < subRisk o.telemetry .weightAnalysis ↔ _
      rw [subRisk_telemetry]

/-- Recorded indices are a drawn number, and every drawn number is above the baseline. -/
theorem recordedIndices_risk_pos_iff (x : Except PyError NeuralCleanseOutcome) :
    0 < normalizeNeuralCleanse (recordedIndices x) ↔ recordedIndices x ≠ [] := by
  cases x with
  | error e => simp [recordedIndices, normalizeNeuralCleanse]
  | ok nc =>
      show 0 < normalizeNeuralCleanse (ncIndices nc.flagged nc.draw) ↔
        ncIndices nc.flagged nc.draw ≠ []
      rw [ncIndices]
      split
      · refine iff_of_true ?_ (List.cons_ne_nil _ _)
        have hlo := nc.draw.lo
        show 0 < ramp (3 / 2) (5 / 2) nc.draw.val
        exact (ramp_pos_iff (by norm_num)).2 (by linarith)
      · exact iff_of_false (lt_irrefl 0) fun h => h rfl

/-- The ratios recorded for STRIP are `1/2`, `1/20` or `0`. -/
theorem recordedRatio_cases (x : Except PyError (List ℚ)) :
    recordedRatio x = 1 / 2 ∨ recordedRatio x = 5 / 100 ∨ recordedRatio x = 0 := by
  cases x with
  | error e => exact Or.inr (Or.inr rfl)
  | ok cleanEntropies =>
      show stripRatio cleanEntropies = 1 / 2 ∨ stripRatio cleanEntropies = 5 / 100 ∨ _
      rw [stripRatio]
      split
      · exact Or.inl rfl
      · exact Or.inr (Or.inl rfl)

/-- On every run the findings agree with the fused risk of each method but STRIP. A large ratio,
which has risk zero, is reported as suspiciously low entropy; a small one, which has a risk near
one, is not reported. -/
theorem signalAgrees_iff (clf : RiskMetaClassifier) (isOnnx : Bool) (featureLayerName : String)
    (requested : ℤ) (o : StageOutcomes) {r : ScanResult} {f : FusionDetails}
    (hr : scan clf isOnnx featureLayerName requested o = .ok r) (hf : r.details.fusion = some f)
    (m : Method) : SignalAgrees r f m ↔ m ≠ .strip := by
  obtain ⟨score, use, hscan⟩ := scan_eq clf isOnnx featureLayerName requested o
  rw [hscan] at hr
  cases hr
  cases hf
  simp only [SignalAgrees, reported_forensicAnalysis_iff, reportCondition_update,
    subRisk_telemetry]
  cases m with
  | neuralCleanse =>
      refine iff_of_true ⟨fun h => ?_, fun h => ?_⟩ (by decide)
      · exact (recordedIndices_risk_pos_iff _).2 h
      · exact (recordedIndices_risk_pos_iff o.neuralCleanse).1 (lt_of_lt_of_le (by norm_num) h)
  | strip =>
      refine iff_of_false ?_ fun h => h rfl
      show ¬ ((2 / 10 < recordedRatio o.strip →
          0 < normalizeStrip (recordedRatio o.strip) (recordedRatio o.strip)) ∧
        (3 / 4 ≤ normalizeStrip (recordedRatio o.strip) (recordedRatio o.strip) →
          2 / 10 < recordedRatio o.strip))
      -- 1/2 is reported at risk 0; 1/20 and 0 have risks 9/10 and 1 and are not reported
      rcases recordedRatio_cases o.strip with h | h | h <;> rw [h] <;>
        norm_num [normalizeStrip, clampUnit]
  | clusteringAnalysis =>
      have hpos : 0 < normalizeClustering (recordedScore o.clustering) ↔
          2 / 100 < recordedScore o.clustering := ramp_pos_iff (by norm_num)
      refine iff_of_true ⟨fun h => hpos.2 h, fun h => ?_⟩ (by decide)
      exact hpos.1 (lt_of_lt_of_le (by norm_num) h)
  | linearWeightAudit =>
      refine iff_of_true ⟨fun h => ?_, fun h => ?_⟩ (by decide)
      · exact lt_trans (by norm_num) h
      · exact lt_of_lt_of_le (by norm_num) h

/-- Whatever the detectors report and whichever of them fail, the scan returns a result whose
narrative disagrees with its fusion details. -/
theorem not_narrativeAgrees (clf : RiskMetaClassifier) (isOnnx : Bool) (featureLayerName : String)
    (requested : ℤ) (o : StageOutcomes) :
    ∃ r, scan clf isOnnx featureLayerName requested o = .ok r ∧ ¬ NarrativeAgrees r := by
  obtain ⟨score, use, hscan⟩ := scan_eq clf isOnnx featureLayerName requested o
  refine ⟨_, hscan, ?_⟩
  rintro ⟨f, hf, hagrees⟩
  exact (signalAgrees_iff clf isOnnx featureLayerName requested o hscan hf .strip).1
    (hagrees .strip) rfl

/-- Quiet detectors and high entropies: STRIP is reported with severity `HIGH` at risk `0`. -/
theorem quiet_scan_reports_strip_without_risk :
    ∃ r, scan untrainedClassifier false "model.avgpool" (-1) quietOutcomes = .ok r ∧
      Reported r.forensicAnalysis .strip ∧
      r.details.fusion.map (fun f => f.risk .strip) = some 0 ∧ ¬ NarrativeAgrees r := by
  obtain ⟨score, use, hscan⟩ :=
    scan_eq untrainedClassifier false "model.avgpool" (-1) quietOutcomes
  have hreported : Reported (forensicAnalysis ((runStages quietOutcomes).update
      ⟨subRisk quietOutcomes.telemetry, use⟩) "model.avgpool"
      (resolveTargetClass (-1) quietOutcomes.neuralCleanse)) .strip := by
    rw [reported_forensicAnalysis_iff, reportCondition_update]
    decide +kernel
  have hrisk : subRisk quietOutcomes.telemetry .strip = 0 := by decide +kernel
  refine ⟨_, hscan, hreported, congrArg some hrisk, ?_⟩
  rintro ⟨f, hf, hagrees⟩
  cases hf
  have hpos := (hagrees .strip).1 hreported
  exact absurd hrisk hpos.ne'

end TrojanDetection.Service.ScanTask
