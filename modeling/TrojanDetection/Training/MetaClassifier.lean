import TrojanDetection.Defenses.Activations
import TrojanDetection.Defenses.RiskFusion
import TrojanDetection.Service.Submission

/-!
# Training the meta-classifier (`train_meta_classifier.py`; `defenses.py`, `RiskMetaClassifier`)

`generate_training_data` audits a directory of models and keeps a vector of five sub-risks for each
model whose audit does not raise; `RiskMetaClassifier.train` fits a random forest on such vectors.
The forest is code outside the repository: a fit fixes the number of features, and a prediction
raises on a vector of another length. The fusion engine asks it about six sub-risks.

`usesClassifier_iff` says when an engine uses a fitted forest at all.
-/

set_option autoImplicit false

namespace TrojanDetection.Training.MetaClassifier

open TrojanDetection.Python
open TrojanDetection.Defenses
open TrojanDetection.Defenses.Activations
open TrojanDetection.Defenses.RiskFusion
open TrojanDetection.Service.Submission

/-! ## The forest -/

/-- A fitted `RandomForestClassifier`: one probability for each class it has seen. -/
structure FittedForest where
  nFeaturesIn : ℕ
  classes : List ℤ
  proba : List ℚ → List ℚ
  length_proba : ∀ features, (proba features).length = classes.length

/-- `predict_proba` on one row. -/
def FittedForest.predictProba (forest : FittedForest) (features : List ℚ) :
    Except PyError (List ℚ) :=
  let given := features.length
  let expected := forest.nFeaturesIn
  if given = expected then .ok (forest.proba features)
  else .error (.valueError (s!"X has {given} features, but RandomForestClassifier is " ++
    s!"expecting {expected} features as input."))

/-- `fit`: on rows of one positive width, with a label for each, it returns a forest that has seen
exactly these labels. -/
structure RandomForest where
  fit : List (List ℚ) → List ℤ → Except PyError FittedForest
  fit_returns : ∀ X y width, X ≠ [] → X.length = y.length → (∀ row ∈ X, row.length = width) →
    0 < width → ∃ forest, fit X y = .ok forest
  nFeaturesIn_fit : ∀ X y forest, fit X y = .ok forest → ∀ row ∈ X, row.length = forest.nFeaturesIn
  mem_classes_fit : ∀ X y forest, fit X y = .ok forest → ∀ c, c ∈ forest.classes ↔ c ∈ y

/-! ## The classifier -/

/-- A classifier with the forest that it was given. -/
def ofForest (forest : FittedForest) : RiskMetaClassifier where
  isTrained := true
  predictProba := forest.predictProba

/-- `__init__`, with what `meta_classifier.pkl` holds if it exists. -/
def loadIfExists : Option FittedForest → RiskMetaClassifier
  | some forest => ofForest forest
  | none =>
      { isTrained := false
        predictProba := fun _ => .error (.valueError
          ("This RandomForestClassifier instance is not fitted yet. Call 'fit' with " ++
            "appropriate arguments before using this estimator.")) }

/-- `train`: the classifier afterwards, and the forest that it pickles. -/
def train (library : RandomForest) (X : List (List ℚ)) (y : List ℤ) :
    Except PyError (RiskMetaClassifier × FittedForest) := do
  let forest ← library.fit X y
  .ok (ofForest forest, forest)

/-! ## The training data -/

/-- The sub-risks of one audited model. -/
structure SubRisks where
  ncRisk : ℚ
  stripRisk : ℚ
  acRisk : ℚ
  waRisk : ℚ
  ntpRisk : ℚ
  deriving DecidableEq, Repr

/-- `feature_vector`, as it is appended to `X`. -/
def SubRisks.featureVector (risks : SubRisks) : List ℚ :=
  [risks.ncRisk, risks.stripRisk, risks.acRisk, risks.waRisk, risks.ntpRisk]

/-- An entry of `X` with its entry of `y`. -/
structure TrainingSample where
  risks : SubRisks
  label : ℤ
  deriving DecidableEq, Repr

/-- What the audit of a model calls: `μ` is the type of networks, `χ` that of inputs. -/
structure Suite (μ χ : Type) where
  /-- `torch.load` into `get_resnet18(num_classes=10)`. -/
  loadResnet18 : Path → Except PyError μ
  /-- `torch.load` of a whole object. -/
  loadObject : Path → Except PyError μ
  /-- `TrojAI_ModelWrapper`. -/
  wrap : μ → Except PyError μ
  /-- The clean test loader of CIFAR-10. -/
  cifarLoader : DataLoader χ
  /-- `get_trojai_dataloader` for an image size. -/
  trojaiLoader : ℕ × ℕ → Except PyError (DataLoader χ)
  /-- The classes that `NeuralCleanse.detect` flags, for a number of classes. -/
  neuralCleanse : μ → ℕ → DataLoader χ → Except PyError (List ℤ)
  /-- What the hook on the feature layer records. -/
  layer : μ → χ → Except PyError Row
  weightAnalysis : μ → Except PyError (List ℚ)
  profileShortcuts : μ → DataLoader χ → Except PyError ℚ
  tools : Toolkit

variable {μ χ : Type}

/-- The words of a path that label a model as poisoned. -/
def poisonWords : List Path := ["poisoned".toList, "poison".toList, "malicious".toList]

/-- The word of a path that selects the small ResNet. -/
def resnet18 : Path := "resnet18".toList

/-- The label is read off the path. -/
def modelLabel (modelPath : Path) : ℤ :=
  if poisonWords.any (contains (lower modelPath)) then 1 else 0

/-- The resolution is read off the path by the rule of the scan task. -/
def getModelInputSize (modelPath : Path) : ℕ × ℕ := inputSize modelPath

/-- Loading and wrapping a model, by the words of its path. -/
def Suite.loadModel (suite : Suite μ χ) (modelPath : Path) : Except PyError μ := do
  let rawModel ←
    if contains (lower modelPath) resnet18 || getModelInputSize modelPath = (32, 32) then
      suite.loadResnet18 modelPath
    else suite.loadObject modelPath
  suite.wrap rawModel

/-- The loader for the scale of the model. -/
def Suite.testData (suite : Suite μ χ) (modelPath : Path) : Except PyError (DataLoader χ) :=
  if getModelInputSize modelPath = (32, 32) then .ok suite.cifarLoader
  else suite.trojaiLoader (getModelInputSize modelPath)

/-- The number of classes that the sweep is given. -/
def ncClasses (modelPath : Path) : ℕ := if getModelInputSize modelPath = (32, 32) then 10 else 1000

/-- `normalize_clustering` of the first component that the detector returned. -/
def clusteringRisk : List Value → Except PyError ℚ
  | .int n :: _ => .ok (normalizeClustering n)
  | .float x :: _ => .ok (normalizeClustering x)
  | _ => .error (.typeError "'<' not supported")

/-- The clustering stage: three names for what the detector returns. -/
def Suite.clusteringStage (suite : Suite μ χ) (model : μ) (testData : DataLoader χ) :
    Except PyError ℚ := do
  let returned ← ActivationClustering.detect suite.tools (suite.layer model) testData 0 .kmeans
  let names ← unpack 3 returned
  clusteringRisk names

/-- The body of the `try` block. -/
def Suite.auditModel (suite : Suite μ χ) (modelPath : Path) : Except PyError TrainingSample := do
  let label := modelLabel modelPath
  let model ← suite.loadModel modelPath
  let testData ← suite.testData modelPath
  let flaggedNc ← suite.neuralCleanse model (ncClasses modelPath) testData
  let ncRisk := normalizeNeuralCleanse (if flaggedNc.isEmpty then [] else [3])
  -- STRIP is simulated from the label itself
  let stripRisk := if label = 1 then 1 else 5 / 100
  let acRisk ← suite.clusteringStage model testData
  let waIndices ← suite.weightAnalysis model
  let ntpSensitivity ← suite.profileShortcuts model testData
  .ok {
    risks := {
      ncRisk := ncRisk
      stripRisk := stripRisk
      acRisk := acRisk
      waRisk := normalizeWeightAnalysis waIndices
      ntpRisk := clampUnit (ntpSensitivity * (3 / 2)) }
    label := label }

/-- `generate_training_data` on the files that the two patterns match. A model whose audit raises is
reported and left out; without models nothing is returned. -/
def Suite.generateTrainingData (suite : Suite μ χ) (pthFiles onnxFiles : List Path) :
    Option (List TrainingSample) :=
  let models := pthFiles ++ onnxFiles
  if models.isEmpty then none
  else some (models.filterMap fun modelPath => (suite.auditModel modelPath).toOption)

/-- `train_meta_classifier` on the samples of the data file. -/
def trainMetaClassifier (library : RandomForest) (samples : List TrainingSample) :
    Except PyError (RiskMetaClassifier × FittedForest) :=
  train library (samples.map fun s => s.risks.featureVector) (samples.map TrainingSample.label)

/-! ## What is kept -/

section Kept

variable {suite : Suite μ χ} {modelPath : Path} {model : μ} {testData : DataLoader χ}

/-- Three names fit only the result for a class without samples, whose score is no risk. -/
theorem clusteringStage_eq_ok_iff {risk : ℚ} :
    suite.clusteringStage model testData = .ok risk ↔
      LayerRuns (suite.layer model) testData.flatten ∧ ¬ Present testData.flatten 0 ∧
        risk = 0 := by
  have hzero : normalizeClustering (-1) = 0 := ramp_of_le (by norm_num)
  simp only [Suite.clusteringStage, bind_eq_ok_iff, unpack_eq_ok_iff]
  constructor
  · rintro ⟨values, hvalues, names, ⟨hlength, rfl⟩, hrisk⟩
    obtain ⟨hruns, hrest⟩ := onRepresentations_eq_ok_iff.1 hvalues
    by_cases hclass : Present testData.flatten 0
    · rw [if_pos hclass] at hrest
      rw [ActivationClustering.length_examine hrest] at hlength
      cases hlength
    · rw [if_neg hclass] at hrest
      subst hrest
      refine ⟨hruns, hclass, ?_⟩
      rw [← hzero]
      exact (Except.ok.inj hrisk).symm
  · rintro ⟨hruns, hclass, rfl⟩
    refine ⟨[.int (-1), .none, .none], onRepresentations_eq_ok_iff.2 ⟨hruns, if_neg hclass ▸ rfl⟩,
      _, ⟨rfl, rfl⟩, ?_⟩
    exact congrArg Except.ok hzero

/-- Every stage of the audit but the clustering returns. -/
structure OthersReturn (suite : Suite μ χ) (modelPath : Path) (model : μ)
    (testData : DataLoader χ) : Prop where
  load : suite.loadModel modelPath = .ok model
  data : suite.testData modelPath = .ok testData
  neuralCleanse : ∃ flaggedNc,
    suite.neuralCleanse model (ncClasses modelPath) testData = .ok flaggedNc
  weightAnalysis : ∃ waIndices, suite.weightAnalysis model = .ok waIndices
  profile : ∃ sensitivity, suite.profileShortcuts model testData = .ok sensitivity

/-- The audit of a model then returns exactly when its clustering stage does. -/
theorem OthersReturn.audit_returns_iff (h : OthersReturn suite modelPath model testData) :
    (∃ sample, suite.auditModel modelPath = .ok sample) ↔
      ∃ risk, suite.clusteringStage model testData = .ok risk := by
  obtain ⟨flaggedNc, hnc⟩ := h.neuralCleanse
  obtain ⟨waIndices, hwa⟩ := h.weightAnalysis
  obtain ⟨sensitivity, hntp⟩ := h.profile
  simp only [Suite.auditModel, h.load, h.data, hnc, hwa, hntp, bind_eq_ok_iff, Except.ok.injEq,
    exists_eq_left']
  constructor
  · rintro ⟨sample, risk, hrisk, -⟩
    exact ⟨risk, hrisk⟩
  · rintro ⟨risk, hrisk⟩
    exact ⟨_, risk, hrisk, rfl⟩

/-- The training data are the samples of the audits that return. -/
theorem mem_generateTrainingData_iff {sample : TrainingSample} {samples : List TrainingSample}
    {pthFiles onnxFiles : List Path}
    (h : suite.generateTrainingData pthFiles onnxFiles = some samples) :
    sample ∈ samples ↔
      ∃ path ∈ pthFiles ++ onnxFiles, suite.auditModel path = .ok sample := by
  simp only [Suite.generateTrainingData] at h
  split at h
  · cases h
  · cases h
    rw [List.mem_filterMap]
    apply exists_congr
    intro path
    apply and_congr_right
    intro _
    cases suite.auditModel path <;> simp [Except.toOption]

/-- No sample of the training data has a clustering risk: the audits of all other models raise. -/
theorem acRisk_of_mem_generateTrainingData {sample : TrainingSample}
    {samples : List TrainingSample} {pthFiles onnxFiles : List Path}
    (h : suite.generateTrainingData pthFiles onnxFiles = some samples)
    (hsample : sample ∈ samples) : sample.risks.acRisk = 0 := by
  obtain ⟨path, -, haudit⟩ := (mem_generateTrainingData_iff h).1 hsample
  simp only [Suite.auditModel, bind_eq_ok_iff] at haudit
  obtain ⟨model, -, testData, -, flaggedNc, -, risk, hrisk, waIndices, -, sensitivity, -, hok⟩ :=
    haudit
  cases hok
  exact (clusteringStage_eq_ok_iff.1 hrisk).2.2

end Kept

/-! ## When the engine uses a fitted forest -/

/-- An engine that consults `clf`. -/
def engineWith (weights : Weights) (clf : RiskMetaClassifier) : RiskFusionEngine where
  weights := weights
  useMetaClassifier := true
  metaClassifier := some clf

/-- The engine returns the probability of its classifier and says that it used it. -/
def UsesClassifier (weights : Weights) (clf : RiskMetaClassifier) (t : Telemetry) : Prop :=
  ∃ p details, (engineWith weights clf).calculateUnifiedRisk t = .ok (p, details) ∧
    details.usedMetaClassifier = .used ∧ clf.predictRisk (features t) = .ok p

theorem length_features (t : Telemetry) : (features t).length = 6 := rfl

/-- The forest answers on vectors of its own width, if it has seen two classes. -/
theorem predictRisk_ofForest_iff {forest : FittedForest} {x : List ℚ} :
    (∃ p, (ofForest forest).predictRisk x = .ok p) ↔
      x.length = forest.nFeaturesIn ∧ 2 ≤ forest.classes.length := by
  simp only [RiskMetaClassifier.predictRisk, ofForest, if_true, bind_eq_ok_iff,
    FittedForest.predictProba]
  by_cases hwidth : x.length = forest.nFeaturesIn
  · rw [if_pos hwidth, ← forest.length_proba x]
    simp only [Except.ok.injEq, exists_eq_left', hwidth, true_and]
    cases hrow : forest.proba x with
    | nil => simp
    | cons p₀ rest =>
        cases rest with
        | nil => simp
        | cons p₁ rest => simp
  · simp [hwidth]

/-- Whatever raises in the classifier, the engine reports the fallback. -/
theorem usesClassifier_iff_predictRisk {weights : Weights} {clf : RiskMetaClassifier}
    (htrained : clf.isTrained = true) {t : Telemetry} :
    UsesClassifier weights clf t ↔
      (∃ signals, (engineWith weights clf).signalRisks t = .ok signals) ∧
        ∃ p, clf.predictRisk (features t) = .ok p := by
  have hconsulted : (engineWith weights clf).consulted = some clf := by
    simp [RiskFusionEngine.consulted, engineWith, Option.filter, htrained]
  simp only [UsesClassifier, RiskFusionEngine.calculateUnifiedRisk, hconsulted, bind_eq_ok_iff]
  constructor
  · rintro ⟨p, details, ⟨signals, hsignals, -⟩, -, hp⟩
    exact ⟨⟨signals, hsignals⟩, p, hp⟩
  · rintro ⟨⟨signals, hsignals⟩, p, hp⟩
    refine ⟨p, ⟨subRisk t, .used⟩, ⟨signals, hsignals, ?_⟩, rfl, hp⟩
    rw [hp]
    rfl

/-- An engine with complete weights uses a forest exactly when the forest was fitted on vectors of
six features, with two classes among the labels. -/
theorem usesClassifier_iff {forest : FittedForest} (w : Signal → ℚ) (t : Telemetry) :
    UsesClassifier (fun s => some (w s)) (ofForest forest) t ↔
      forest.nFeaturesIn = 6 ∧ 2 ≤ forest.classes.length := by
  rw [usesClassifier_iff_predictRisk rfl, predictRisk_ofForest_iff, length_features, eq_comm]
  apply and_iff_right
  exact ⟨_, RiskFusionEngine.signalRisks_eq rfl t⟩

/-- Fitted on vectors of six features with both labels, the forest is used on every telemetry. -/
theorem usesClassifier_of_six {library : RandomForest} {X : List (List ℚ)} {y : List ℤ}
    {forest : FittedForest} (hfit : library.fit X y = .ok forest)
    (hsix : ∃ row ∈ X, row.length = 6) (hclean : 0 ∈ y) (hpoisoned : 1 ∈ y) (w : Signal → ℚ)
    (t : Telemetry) : UsesClassifier (fun s => some (w s)) (ofForest forest) t := by
  obtain ⟨row, hrow, hlength⟩ := hsix
  refine (usesClassifier_iff w t).2 ⟨?_, ?_⟩
  · rw [← library.nFeaturesIn_fit X y forest hfit row hrow, hlength]
  · have hmem := library.mem_classes_fit X y forest hfit
    have hsub : [0, 1] ⊆ forest.classes := by
      simp [hmem, hclean, hpoisoned]
    exact List.Nodup.length_le_of_subset (by decide) hsub

/-! ## Training sets -/

/-- A data set of generated samples with both labels. -/
structure TrainingSet where
  samples : List TrainingSample
  clean : 0 ∈ samples.map TrainingSample.label
  poisoned : 1 ∈ samples.map TrainingSample.label

theorem TrainingSet.samples_ne_nil (data : TrainingSet) : data.samples ≠ [] := by
  intro h
  have hclean := data.clean
  rw [h] at hclean
  cases hclean

/-- Training on generated samples succeeds, on vectors of five features. -/
theorem train_returns (library : RandomForest) (data : TrainingSet) :
    ∃ forest, trainMetaClassifier library data.samples = .ok (ofForest forest, forest) ∧
      forest.nFeaturesIn = 5 := by
  have hwidth : ∀ row ∈ data.samples.map fun s => s.risks.featureVector, row.length = 5 := by
    intro row hrow
    obtain ⟨s, -, rfl⟩ := List.mem_map.1 hrow
    rfl
  have hne : data.samples.map (fun s => s.risks.featureVector) ≠ [] := by
    simpa using data.samples_ne_nil
  obtain ⟨forest, hforest⟩ := library.fit_returns _ (data.samples.map TrainingSample.label) 5 hne
    (by simp) hwidth (by decide)
  refine ⟨forest, ?_, ?_⟩
  · rw [trainMetaClassifier, train, hforest]
    rfl
  · obtain ⟨row, hrow⟩ := List.exists_mem_of_ne_nil _ hne
    rw [← library.nFeaturesIn_fit _ _ forest hforest row hrow]
    exact hwidth row hrow

/-- No classifier trained on generated samples is ever used, neither the trained object nor one
loaded from what it pickled: the vector given to it has a sixth feature. -/
theorem trained_classifier_never_used (library : RandomForest) (data : TrainingSet)
    (weights : Weights) (t : Telemetry) :
    ∃ clf forest, trainMetaClassifier library data.samples = .ok (clf, forest) ∧
      ¬ UsesClassifier weights clf t ∧ ¬ UsesClassifier weights (loadIfExists (some forest)) t := by
  obtain ⟨forest, htrain, hwidth⟩ := train_returns library data
  have hunused : ¬ UsesClassifier weights (ofForest forest) t := by
    intro huses
    obtain ⟨-, hpredict⟩ := (usesClassifier_iff_predictRisk rfl).1 huses
    obtain ⟨hlength, -⟩ := predictRisk_ofForest_iff.1 hpredict
    rw [length_features, hwidth] at hlength
    cases hlength
  exact ⟨ofForest forest, forest, htrain, hunused, hunused⟩

/-- A library whose forests give every class they have seen the same probability. -/
def uniformForest : RandomForest where
  fit X y :=
    if X ≠ [] ∧ X.length = y.length ∧ ∀ row ∈ X, row.length = (X.headD []).length then
      .ok {
        nFeaturesIn := (X.headD []).length
        classes := y.dedup
        proba := fun _ => y.dedup.map fun _ => 1 / y.dedup.length
        length_proba := fun _ => List.length_map _ }
    else .error (.valueError "Found array with inconsistent samples")
  fit_returns := by
    intro X y width hne hlength hwidth _
    refine ⟨_, if_pos ⟨hne, hlength, ?_⟩⟩
    cases X with
    | nil => exact absurd rfl hne
    | cons first rows =>
        intro row hrow
        rw [hwidth row hrow]
        exact (hwidth first List.mem_cons_self).symm
  nFeaturesIn_fit := by
    intro X y forest hfit row hrow
    split at hfit
    · next h =>
        cases hfit
        exact h.2.2 row hrow
    · cases hfit
  mem_classes_fit := by
    intro X y forest hfit c
    split at hfit
    · cases hfit
      exact List.mem_dedup
    · cases hfit

/-- A clean model and a poisoned one. -/
def twoModels : TrainingSet where
  samples := [⟨⟨0, 5 / 100, 0, 0, 1 / 10⟩, 0⟩, ⟨⟨6 / 10, 1, 0, 1, 1 / 2⟩, 1⟩]
  clean := List.mem_cons_self
  poisoned := List.mem_cons_of_mem _ List.mem_cons_self

/-- Two detectors fire fully. -/
def twoFired : Telemetry where
  ncAnomalyIndices := [4]
  stripFrRatio := 0
  stripFaRatio := 0
  clusteringScore := 0

/-- The forest would say one half on any vector it accepts; the engine falls back to one. -/
theorem trained_classifier_falls_back :
    ∃ clf forest, trainMetaClassifier uniformForest twoModels.samples = .ok (clf, forest) ∧
      clf.predictRisk (features twoFired) = .error (.valueError
        "X has 6 features, but RandomForestClassifier is expecting 5 features as input.") ∧
      ((engineWith (fun s => some (defaultWeight s)) clf).calculateUnifiedRisk twoFired).map
        (fun result => (result.1, result.2.usedMetaClassifier)) =
          .ok (1, .fallbackConfidenceWeighted) := by
  exact ⟨_, _, rfl, by decide +kernel, by decide +kernel⟩

end TrojanDetection.Training.MetaClassifier
