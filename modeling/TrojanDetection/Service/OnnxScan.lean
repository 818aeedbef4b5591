import TrojanDetection.Defenses.GradientSimilarity
import TrojanDetection.Defenses.OnnxCleanse
import TrojanDetection.Defenses.WeightAnalysis
import TrojanDetection.Service.ScanTask

/-!
# Scans of ONNX models (`celery_worker.py`)

Three of the six detectors need what an ONNX model does not offer. Neural Cleanse and gradient
similarity need a gradient, which ends at the wrapper of the runtime, and weight analysis needs a
linear layer among the modules, of which the wrapper has none. None of them fails the scan: in
discovery mode on small images the score of every ONNX model is the mean over STRIP, clustering and
the natural profiler alone, whether or not the model can be run (`onnx_scan_uses_three_signals`). On
large images the worker asks Neural Cleanse for class zero instead of a sweep, and a targeted scan
always flags its class.
-/

set_option autoImplicit false

namespace TrojanDetection.Service.OnnxScan

open TrojanDetection.Python
open TrojanDetection.Library.ActiveMean
open TrojanDetection.Models
open TrojanDetection.Defenses
open TrojanDetection.Defenses.OnnxCleanse
open TrojanDetection.Defenses.Representations
open TrojanDetection.Defenses.RiskFusion
open TrojanDetection.Service.ScanTask

/-! ## Weight analysis -/

/-- The modules of a wrapped ONNX model: the two wrappers. -/
def onnxModules : NamedModules (List ℚ) := [("", .other), ("model", .other)]

theorem detect_onnxModules : (WeightAnalysis.mk onnxModules).detect = [] := rfl

/-! ## Gradient similarity -/

section Gradients

variable {τ γ ω : Type}

/-- `compute_gradient` on a wrapped ONNX model: the backward pass ends at the outputs, so the input
has no gradient to read. -/
def onnxGradient (session : τ → Except PyError ω) (select : ω → ℤ → Except PyError ℚ)
    (inputTensor : τ) (targetClass : ℤ) : Except PyError γ := do
  let output ← session inputTensor
  let _ ← select output targetClass
  -- `input_tensor.grad` is `None`
  .error .attributeError

theorem onnxGradient_ne_ok (session : τ → Except PyError ω) (select : ω → ℤ → Except PyError ℚ)
    (x : τ) (c : ℤ) (g : γ) : onnxGradient session select x c ≠ .ok g := by
  intro h
  obtain ⟨output, -, h⟩ := bind_eq_ok_iff.1 h
  obtain ⟨logit, -, h⟩ := bind_eq_ok_iff.1 h
  cases h

variable [Add τ] [Sub τ] [Mul τ] [One τ] [SMul ℚ τ]

/-- Without gradients the detector raises on its first sample; only without samples it returns. -/
theorem detect_of_no_gradient {gs : GradientSimilarity τ γ}
    (hgradient : ∀ x c g, gs.computeGradient x c ≠ .ok g) (call : GradientSimilarity.Call τ)
    (dataloader : List (Batch τ)) {score : ℚ} (h : gs.detect call dataloader = .ok score) :
    score = 0 := by
  obtain ⟨acc, hacc, hscore⟩ := bind_eq_ok_iff.1 h
  rw [GradientSimilarity.collect_eq_collectBatch] at hacc
  have hempty : acc.cleanGrads = [] := by
    cases hinputs : dataloader.flatMap Batch.inputs with
    | nil =>
        rw [hinputs] at hacc
        cases hacc
        rfl
    | cons img inputs =>
        rw [hinputs, GradientSimilarity.collectBatch] at hacc
        split at hacc
        · cases hacc
          rfl
        · obtain ⟨acc', hsample, -⟩ := bind_eq_ok_iff.1 hacc
          obtain ⟨cg, hcg, -⟩ := bind_eq_ok_iff.1 hsample
          exact absurd hcg (hgradient _ _ _)
  rw [hempty] at hscore
  exact (Except.ok.inj hscore).symm

end Gradients

/-! ## The scan -/

/-- The signals that an ONNX model can raise. -/
def onnxSignals : Finset Signal := {.strip, .clustering, .naturalProfiler}

section Scan

variable {χ ω τ γ : Type} [Add τ] [Sub τ] [Mul τ] [One τ] [SMul ℚ τ]

/-- A scan of an ONNX model in discovery mode on small images: what the three detectors make of the
model. -/
structure OnnxRun (χ ω τ γ : Type) [Add τ] [Sub τ] [Mul τ] [One τ] [SMul ℚ τ] where
  outcomes : StageOutcomes
  sweep : OnnxSweep χ ω
  draw : UniformDraw
  session : τ → Except PyError ω
  select : ω → ℤ → Except PyError ℚ
  cosineSimilarity : γ → γ → ℚ
  call : GradientSimilarity.Call τ
  testClean : List (Batch τ)
  neuralCleanse_eq : outcomes.neuralCleanse = sweep.detect.map fun flagged => ⟨flagged, draw⟩
  weightAnalysis_eq : outcomes.weightAnalysis = .ok (WeightAnalysis.mk onnxModules).detect
  gradientSimilarity_eq : outcomes.gradientSimilarity =
    GradientSimilarity.detect ⟨onnxGradient session select, cosineSimilarity⟩ call testClean

/-- A sweep that raises and one that flags nothing leave the same traces: none, and class zero. -/
theorem OnnxRun.neuralCleanse_cases (run : OnnxRun χ ω τ γ) (hfew : run.sweep.FewHigh) :
    (∃ e, run.outcomes.neuralCleanse = .error e) ∨
      run.outcomes.neuralCleanse = .ok ⟨[], run.draw⟩ := by
  rw [run.neuralCleanse_eq]
  cases hsweep : run.sweep.detect with
  | error e => exact .inl ⟨e, rfl⟩
  | ok flagged =>
      rw [run.sweep.flagged_eq_nil hfew hsweep]
      exact .inr rfl

/-- Every other signal has no risk. -/
theorem OnnxRun.stageRisk_eq_zero (run : OnnxRun χ ω τ γ) (hfew : run.sweep.FewHigh) {s : Signal}
    (hs : s ∉ onnxSignals) : stageRisk run.outcomes s = 0 := by
  cases s with
  | neuralCleanse =>
      rcases run.neuralCleanse_cases hfew with ⟨e, he⟩ | hnone
      · rw [stageRisk, he]
        rfl
      · rw [stageRisk, hnone]
        rfl
  | weightAnalysis =>
      rw [stageRisk, run.weightAnalysis_eq, detect_onnxModules]
      rfl
  | gradientSimilarity =>
      have hzero : normalizeGradientSimilarity 0 = 0 := ramp_of_le (by norm_num)
      rw [stageRisk, run.gradientSimilarity_eq]
      cases hdetect : GradientSimilarity.detect
          ⟨onnxGradient run.session run.select, run.cosineSimilarity⟩ run.call run.testClean with
      | error e => exact hzero
      | ok score =>
          rw [detect_of_no_gradient (onnxGradient_ne_ok run.session run.select) run.call
            run.testClean hdetect]
          exact hzero
  | strip => exact absurd (by decide) hs
  | clustering => exact absurd (by decide) hs
  | naturalProfiler => exact absurd (by decide) hs

/-- On the weighted path the score of an ONNX model in discovery mode on small images is the mean over
three of the six signals, and the class that is examined further is class zero. -/
theorem onnx_scan_uses_three_signals (run : OnnxRun χ ω τ γ) (hfew : run.sweep.FewHigh)
    (clf : RiskMetaClassifier) (hpath : (workerEngine clf).WeightedPath run.outcomes.telemetry)
    (featureLayerName : String) :
    ∃ r, scan clf true featureLayerName (-1) run.outcomes = .ok r ∧
      r.fusionRiskScore = activeMean onnxSignals (stageRisk run.outcomes) defaultWeight ∧
      resolveTargetClass (-1) run.outcomes.neuralCleanse = 0 := by
  have hrisks : subRisk run.outcomes.telemetry = stageRisk run.outcomes :=
    funext (subRisk_telemetry run.outcomes)
  have hcalc := (workerEngine clf).calculateUnifiedRisk_eq rfl defaultWeight_pos hpath
  refine ⟨_, bind_eq_ok_iff.2 ⟨_, hcalc, rfl⟩, ?_, ?_⟩
  · rw [hrisks]
    apply activeMean_eq_of_subset _ (Finset.subset_univ _)
    intro s _ hs
    exact (run.stageRisk_eq_zero hfew hs).le
  · rcases run.neuralCleanse_cases hfew with ⟨e, he⟩ | hnone
    · rw [he]
      rfl
    · rw [hnone]
      rfl

end Scan

/-! ## A small run -/

/-- A sum that is read as zero. -/
def zeroItem : Item where
  round _ := 0
  nonneg _ _ := le_rfl
  le x hx := by
    rw [Rat.cast_zero]
    positivity

/-- A constant model, and five batches in each pass. -/
noncomputable def smallSweep : OnnxSweep Unit ℚ where
  setting := outputLoss
  session _ := .ok 0
  draws _ _ := oneEntry
  passes _ _ := List.replicate 5 ()
  item := zeroItem
  height_le _ := le_rfl
  five_le _ _ := le_rfl

theorem fewHigh_smallSweep : smallSweep.FewHigh := by
  intro c batch
  have hlength : (smallSweep.draws c batch).mask.length = 1 := rfl
  exact List.countP_le_length.trans (by omega)

theorem three_ge : 5 / 2 ≤ (3 : ℚ) := by norm_num

theorem three_lt : (3 : ℚ) < 4 := by norm_num

/-- Low entropies, two clusters, and one image on which gradient similarity fails. -/
noncomputable def smallRun : OnnxRun Unit ℚ ℚ ℚ where
  outcomes :=
    { neuralCleanse := smallSweep.detect.map fun flagged => ⟨flagged, ⟨3, three_ge, three_lt⟩⟩
      strip := .ok (List.replicate 10 (1 / 2))
      clustering := .ok (12 / 100, none)
      weightAnalysis := .ok []
      naturalProfiler := .ok 0
      gradientSimilarity := .error .attributeError }
  sweep := smallSweep
  draw := ⟨3, three_ge, three_lt⟩
  session _ := .ok 0
  select output _ := .ok output
  cosineSimilarity _ _ := 1
  call := ⟨0, 8, none, none, fun _ => 0⟩
  testClean := [⟨[0], [3], none⟩]
  neuralCleanse_eq := rfl
  weightAnalysis_eq := rfl
  gradientSimilarity_eq := rfl

/-- The score of the run is that of the three signals, of which two fire. -/
theorem smallRun_uses_three_signals :
    ∃ r, scan untrainedClassifier true "model" (-1) smallRun.outcomes = .ok r ∧
      r.fusionRiskScore = activeMean onnxSignals (stageRisk smallRun.outcomes) defaultWeight ∧
      r.fusionRiskScore = 564 / 805 ∧
      resolveTargetClass (-1) smallRun.outcomes.neuralCleanse = 0 := by
  obtain ⟨r, hrun, hscore, hclass⟩ := onnx_scan_uses_three_signals smallRun fewHigh_smallSweep
    untrainedClassifier (weightedPath_untrained _) "model"
  have hvalue : activeMean onnxSignals (stageRisk smallRun.outcomes) defaultWeight = 564 / 805 := by
    decide +kernel
  exact ⟨r, hrun, hscore, hscore.trans hvalue, hclass⟩

end TrojanDetection.Service.OnnxScan
