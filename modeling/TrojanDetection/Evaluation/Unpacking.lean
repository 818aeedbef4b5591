import TrojanDetection.Training.MetaClassifier

/-!
# The call sites of the activation detectors

Five scripts call `ActivationClustering.detect` or `SpectralSignatures.detect` and assign the result
to a fixed number of names. `CallSite.unpacks_iff` says for each call on which data the assignment
does not raise.
-/

set_option autoImplicit false

namespace TrojanDetection.Evaluation.Unpacking

open TrojanDetection.Python
open TrojanDetection.Defenses.Activations
open TrojanDetection.Training.MetaClassifier

/-- The detectors that return a tuple. -/
inductive Detector
  | clustering (method : ActivationClustering.Method)
  | spectral
  deriving DecidableEq, Repr

/-- The calls of the repository. -/
inductive CallSite
  | celeryWorker
  | trainMetaClassifier
  | evaluateFusionFramework
  | auditRealWorldModel
  | evalDefensesKmeans
  | evalDefensesDbscan
  | evalDefensesSpectral
  deriving DecidableEq, Repr

/-- What a call depends on. -/
structure Call (χ : Type) where
  tools : Toolkit
  layer : χ → Except PyError Row
  loader : DataLoader χ
  targetClass : ℤ
  expectedPoisonRatio : ℚ

variable {μ χ : Type}

/-- The library functions return on the features of a class. -/
def Detector.ToolsReturn (detector : Detector) (call : Call χ) (features : List Row) : Prop :=
  match detector with
  | .clustering method => ActivationClustering.ToolsReturn call.tools method features
  | .spectral =>
      SpectralSignatures.ToolsReturn call.tools call.expectedPoisonRatio (3 / 2) features

/-- The number of components for a class with samples. -/
def Detector.arity : Detector → ℕ
  | .clustering _ => 4
  | .spectral => 3

/-- The number of components for a class without samples. -/
def Detector.arityWithoutSamples : Detector → ℕ
  | .clustering _ => 3
  | .spectral => 0

namespace CallSite

/-- The detector that a call site calls. -/
def detector : CallSite → Detector
  | celeryWorker => .clustering .kmeans
  | trainMetaClassifier => .clustering .kmeans
  | evaluateFusionFramework => .clustering .kmeans
  | auditRealWorldModel => .clustering .kmeans
  | evalDefensesKmeans => .clustering .kmeans
  | evalDefensesDbscan => .clustering .dbscan
  | evalDefensesSpectral => .spectral

/-- Three of the calls write the class down, the others pass one on. -/
def target (requested : ℤ) : CallSite → ℤ
  | celeryWorker => requested
  | trainMetaClassifier => 0
  | evaluateFusionFramework => 0
  | auditRealWorldModel => 0
  | evalDefensesKmeans => requested
  | evalDefensesDbscan => requested
  | evalDefensesSpectral => requested

/-- The number of names on the left of the assignment. -/
def names : CallSite → ℕ
  | celeryWorker => 4
  | trainMetaClassifier => 3
  | evaluateFusionFramework => 3
  | auditRealWorldModel => 3
  | evalDefensesKmeans => 3
  | evalDefensesDbscan => 3
  | evalDefensesSpectral => 3

/-- The tuple that the detector returns to the call. -/
def returned (site : CallSite) (call : Call χ) : Except PyError (List Value) :=
  match site.detector with
  | .clustering method =>
      ActivationClustering.detect call.tools call.layer call.loader
        (site.target call.targetClass) method
  | .spectral =>
      SpectralSignatures.detect call.tools call.layer call.loader
        (site.target call.targetClass) call.expectedPoisonRatio (3 / 2)

/-- The assignment does not raise. -/
def Unpacks (site : CallSite) (call : Call χ) : Prop :=
  ∀ values, site.returned call = .ok values → ∃ assigned, unpack site.names values = .ok assigned

/-- The calls written for a class with samples; the others fit only a class without. -/
def needsSamples : CallSite → Bool
  | celeryWorker => true
  | trainMetaClassifier => false
  | evaluateFusionFramework => false
  | auditRealWorldModel => false
  | evalDefensesKmeans => false
  | evalDefensesDbscan => false
  | evalDefensesSpectral => true

/-- The data are of the kind that the call is written for, as far as the forward passes and the
library functions return on them. -/
def Fits (site : CallSite) (call : Call χ) : Prop :=
  LayerRuns call.layer call.loader.flatten →
    if Present call.loader.flatten (site.target call.targetClass) then
      site.detector.ToolsReturn call
        ((classRows call.layer (site.target call.targetClass) call.loader.flatten).map Prod.fst) →
        site.needsSamples = true
    else site.needsSamples = false

theorem names_eq_arity_iff (site : CallSite) :
    site.detector.arity = site.names ↔ site.needsSamples = true := by
  cases site <;> decide

theorem names_eq_arityWithoutSamples_iff (site : CallSite) :
    site.detector.arityWithoutSamples = site.names ↔ site.needsSamples = false := by
  cases site <;> decide

/-- The lengths that a call can be given. -/
theorem forall_length_returned_iff (site : CallSite) (call : Call χ) (n : ℕ) :
    (∀ values, site.returned call = .ok values → values.length = n) ↔
      (LayerRuns call.layer call.loader.flatten →
        if Present call.loader.flatten (site.target call.targetClass) then
          site.detector.ToolsReturn call
            ((classRows call.layer (site.target call.targetClass) call.loader.flatten).map
              Prod.fst) → site.detector.arity = n
        else site.detector.arityWithoutSamples = n) := by
  cases hdetector : site.detector with
  | clustering method =>
      simp only [returned, hdetector, Detector.ToolsReturn,
        ← ActivationClustering.examine_returns_iff]
      exact forall_length_iff fun _ _ => ActivationClustering.length_examine
  | spectral =>
      simp only [returned, hdetector, Detector.ToolsReturn,
        ← SpectralSignatures.examine_returns_iff]
      exact forall_length_iff fun _ _ => SpectralSignatures.length_examine

/-- A call raises on unpacking exactly when the data are not of its kind. -/
theorem unpacks_iff (site : CallSite) (call : Call χ) : site.Unpacks call ↔ site.Fits call := by
  have hunpack : site.Unpacks call ↔
      ∀ values, site.returned call = .ok values → values.length = site.names := by
    simp [Unpacks, unpack_eq_ok_iff]
  rw [hunpack, forall_length_returned_iff, Fits, names_eq_arity_iff,
    names_eq_arityWithoutSamples_iff]

end CallSite

/-! ## The meta training set -/

/-- The call that the audit of a model makes. -/
def auditCall (suite : Suite μ χ) (model : μ) (testData : DataLoader χ) : Call χ where
  tools := suite.tools
  layer := suite.layer model
  loader := testData
  targetClass := 0
  expectedPoisonRatio := 0

theorem returned_auditCall (suite : Suite μ χ) (model : μ) (testData : DataLoader χ) :
    CallSite.trainMetaClassifier.returned (auditCall suite model testData) =
      ActivationClustering.detect suite.tools (suite.layer model) testData 0 .kmeans := rfl

/-- The training data have a sample of the model. -/
def Kept (suite : Suite μ χ) (modelPath : Path) : Prop :=
  ∃ sample, suite.auditModel modelPath = .ok sample ∧
    ∀ pthFiles onnxFiles samples, modelPath ∈ pthFiles ++ onnxFiles →
      suite.generateTrainingData pthFiles onnxFiles = some samples → sample ∈ samples

/-- Where every detector returns, the model is not left out. -/
def NotDropped (suite : Suite μ χ) (modelPath : Path) : Prop :=
  ∀ model testData, OthersReturn suite modelPath model testData →
    ∀ values, CallSite.trainMetaClassifier.returned (auditCall suite model testData) = .ok values →
      Kept suite modelPath

theorem kept_iff {suite : Suite μ χ} {modelPath : Path} :
    Kept suite modelPath ↔ ∃ sample, suite.auditModel modelPath = .ok sample := by
  constructor
  · rintro ⟨sample, haudit, -⟩
    exact ⟨sample, haudit⟩
  · rintro ⟨sample, haudit⟩
    refine ⟨sample, haudit, ?_⟩
    intro pthFiles onnxFiles samples hmem hsamples
    exact (mem_generateTrainingData_iff hsamples).2 ⟨modelPath, hmem, haudit⟩

/-- Where every detector returns, a model is kept exactly when the data fit the call. -/
theorem notDropped_iff (suite : Suite μ χ) (modelPath : Path) :
    NotDropped suite modelPath ↔
      ∀ model testData, OthersReturn suite modelPath model testData →
        CallSite.trainMetaClassifier.Fits (auditCall suite model testData) := by
  apply forall_congr'
  intro model
  apply forall_congr'
  intro testData
  apply imp_congr_right
  intro hothers
  rw [← CallSite.unpacks_iff, kept_iff, hothers.audit_returns_iff]
  apply forall_congr'
  intro values
  apply imp_congr_right
  intro hvalues
  rw [returned_auditCall] at hvalues
  constructor
  · rintro ⟨risk, hrisk⟩
    simp only [Suite.clusteringStage, bind_eq_ok_iff] at hrisk
    obtain ⟨returned, hreturned, assigned, hassigned, -⟩ := hrisk
    obtain rfl : returned = values := Except.ok.inj (hreturned.symm.trans hvalues)
    exact ⟨assigned, hassigned⟩
  · rintro ⟨assigned, hassigned⟩
    obtain ⟨hlength, -⟩ := unpack_eq_ok_iff.1 hassigned
    obtain ⟨hruns, hrest⟩ := onRepresentations_eq_ok_iff.1 hvalues
    refine ⟨0, clusteringStage_eq_ok_iff.2 ⟨hruns, ?_, rfl⟩⟩
    intro hclass
    rw [if_pos hclass] at hrest
    rw [ActivationClustering.length_examine hrest] at hlength
    cases hlength

/-- The interfaces match their callers exactly on the data that each call is written for: no call
raises on unpacking, and no audited model is left out of the training data for that reason. -/
theorem interfaces_match_iff :
    (∀ (site : CallSite) (call : Call χ), site.Unpacks call ↔ site.Fits call) ∧
      ∀ (suite : Suite μ χ) (modelPath : Path),
        NotDropped suite modelPath ↔
          ∀ model testData, OthersReturn suite modelPath model testData →
            CallSite.trainMetaClassifier.Fits (auditCall suite model testData) :=
  ⟨CallSite.unpacks_iff, notDropped_iff⟩

/-! ## Both kinds of failure -/

/-- Library functions that return: one cluster of all rows, the first column, the first rows. -/
def plainTools : Toolkit where
  kmeans features := .ok (features.map fun _ => 0)
  dbscan features := .ok (features.map fun _ => 0)
  silhouetteScore _ _ := .ok 0
  tsnePlot _ _ := .ok ""
  topSingularVector _ := .ok [1]
  topk _ k := .ok (List.range k)

/-- Two batches with samples of class 0 only, looked at for class `targetClass`. -/
def classZeroCall (targetClass : ℤ) : Call ℚ where
  tools := plainTools
  layer x := .ok [x]
  loader := [[⟨1, 0, none⟩, ⟨2, 0, none⟩], [⟨3, 0, none⟩]]
  targetClass := targetClass
  expectedPoisonRatio := 1 / 10

/-- The suite around these data. -/
def plainSuite : Suite Unit ℚ where
  loadResnet18 _ := .ok ()
  loadObject _ := .ok ()
  wrap _ := .ok ()
  cifarLoader := (classZeroCall 0).loader
  trojaiLoader _ := .ok []
  neuralCleanse _ _ _ := .ok []
  layer _ := (classZeroCall 0).layer
  weightAnalysis _ := .ok []
  profileShortcuts _ _ := .ok 0
  tools := plainTools

/-- On a class without samples the worker and the spectral evaluation raise; on a class with
samples the calls with three names for a clustering do, and the training data lose the model. -/
theorem calls_raise_on_unpacking :
    (CallSite.celeryWorker.returned (classZeroCall 1) >>= unpack CallSite.celeryWorker.names) =
        .error (.valueError "not enough values to unpack (expected 4, got 3)") ∧
      (CallSite.evalDefensesSpectral.returned (classZeroCall 1) >>=
          unpack CallSite.evalDefensesSpectral.names) =
        .error (.valueError "not enough values to unpack (expected 3, got 0)") ∧
      (CallSite.evalDefensesDbscan.returned (classZeroCall 0) >>=
          unpack CallSite.evalDefensesDbscan.names) =
        .error (.valueError "too many values to unpack (expected 3)") ∧
      plainSuite.auditModel "models/clean.pth".toList =
        .error (.valueError "too many values to unpack (expected 3)") ∧
      plainSuite.generateTrainingData ["models/clean.pth".toList] [] = some [] := by
  refine ⟨?_, ?_, ?_, ?_, ?_⟩ <;> decide +kernel

end TrojanDetection.Evaluation.Unpacking
