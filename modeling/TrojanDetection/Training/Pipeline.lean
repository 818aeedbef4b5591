import TrojanDetection.Defenses.SpectralFlags
import TrojanDetection.Service.ScanTask
import TrojanDetection.Training.MetaClassifier

/-!
# The training script and the scans (`train_meta_classifier.py`, `celery_worker.py`)

The script and the workers share two files. `--mode gen` audits a directory and stores the vectors,
`--mode train` fits the forest on whatever is stored and pickles it, and every scan starts by loading
the pickle. From a directory with neither file the following holds after any sequence of runs of the
script, over any models and whatever the detectors reported.

The stored vectors give their label away: the STRIP column is written from the label
(`Generated.lt_stripRisk_iff`). Whatever was trained, no scan changes its score or its findings
(`training_never_changes_a_scan`).
-/

set_option autoImplicit false

namespace TrojanDetection.Training.Pipeline

open TrojanDetection.Python
open TrojanDetection.Defenses
open TrojanDetection.Defenses.RiskFusion
open TrojanDetection.Service.ScanTask
open TrojanDetection.Service.Submission
open TrojanDetection.Training.MetaClassifier

variable {μ χ : Type}

/-! ## The script -/

/-- `meta_training_data.npz` and `meta_classifier.pkl`. -/
structure Store where
  trainingData : Option (List TrainingSample)
  classifier : Option FittedForest

/-- Neither file exists. -/
def Store.empty : Store := ⟨none, none⟩

/-- `generate_training_data`: without models, and when every audit raises, nothing is stored. -/
def Store.generate (s : Store) (suite : Suite μ χ) (pthFiles onnxFiles : List Path) : Store :=
  match suite.generateTrainingData pthFiles onnxFiles with
  | none => s
  | some [] => s
  | some (first :: samples) => { s with trainingData := some (first :: samples) }

/-- `train_meta_classifier` on the stored file; the pickle is opened after the fit. -/
def Store.train (s : Store) (library : RandomForest) : Except PyError Store :=
  match s.trainingData with
  | none => .ok s
  | some samples => do
      let (_, forest) ← trainMetaClassifier library samples
      .ok { s with classifier := some forest }

/-- The option `--mode`. -/
inductive Mode
  | gen
  | train
  | both
  deriving DecidableEq

/-- One run of the script. The models in the directory, and what the detectors report about them,
may differ from run to run. -/
structure Command (μ χ : Type) where
  mode : Mode
  suite : Suite μ χ
  pthFiles : List Path
  onnxFiles : List Path

/-- The files after a run. A fit that raises ends the script; what was generated stays. -/
def Command.run (library : RandomForest) (s : Store) (c : Command μ χ) : Store :=
  let s := if c.mode ≠ .train then s.generate c.suite c.pthFiles c.onnxFiles else s
  if c.mode ≠ .gen then
    match s.train library with
    | .ok trained => trained
    | .error _ => s
  else s

/-- The files after a sequence of runs. -/
def runAll (library : RandomForest) (s : Store) (commands : List (Command μ χ)) : Store :=
  commands.foldl (Command.run library) s

/-! ## What is stored -/

/-- A vector as the script makes it: STRIP is written from the label, Neural Cleanse from whether any
class was flagged, and the clustering risk is that of a class without samples. -/
structure Generated (sample : TrainingSample) : Prop where
  label : sample.label = 0 ∨ sample.label = 1
  ncRisk : sample.risks.ncRisk = 0 ∨ sample.risks.ncRisk = 6 / 10
  stripRisk : sample.risks.stripRisk = if sample.label = 1 then 1 else 5 / 100
  acRisk : sample.risks.acRisk = 0

theorem modelLabel_cases (modelPath : Path) : modelLabel modelPath = 0 ∨ modelLabel modelPath = 1 := by
  rw [modelLabel]
  split
  · exact .inr rfl
  · exact .inl rfl

/-- A flagged class counts as an anomaly index of three. -/
theorem ncRisk_cases (flagged : List ℤ) :
    normalizeNeuralCleanse (if flagged.isEmpty then [] else [3]) = 0 ∨
      normalizeNeuralCleanse (if flagged.isEmpty then [] else [3]) = 6 / 10 := by
  cases flagged with
  | nil => exact .inl rfl
  | cons c flagged =>
      right
      norm_num [normalizeNeuralCleanse, normalizeIndices, ramp, clampUnit]

theorem generated_of_auditModel {suite : Suite μ χ} {modelPath : Path} {sample : TrainingSample}
    (h : suite.auditModel modelPath = .ok sample) : Generated sample := by
  simp only [Suite.auditModel, bind_eq_ok_iff] at h
  obtain ⟨model, -, testData, -, flagged, -, risk, hrisk, waIndices, -, sensitivity, -, hok⟩ := h
  cases hok
  exact ⟨modelLabel_cases modelPath, ncRisk_cases flagged, rfl,
    (clusteringStage_eq_ok_iff.1 hrisk).2.2⟩

/-- Any threshold between the two values of the STRIP column separates the labels. -/
theorem Generated.lt_stripRisk_iff {sample : TrainingSample} (h : Generated sample) {θ : ℚ}
    (hlow : 5 / 100 ≤ θ) (hhigh : θ < 1) : θ < sample.risks.stripRisk ↔ sample.label = 1 := by
  rw [h.stripRisk]
  split
  · next hlabel => exact iff_of_true hhigh hlabel
  · next hlabel => exact iff_of_false (not_lt.2 hlow) hlabel

/-- A data file: some vectors, all of them generated. -/
structure DataFile (samples : List TrainingSample) : Prop where
  ne_nil : samples ≠ []
  generated : ∀ sample ∈ samples, Generated sample

/-- The files hold generated vectors, and a forest that was fitted on such vectors. -/
structure Store.Sound (library : RandomForest) (s : Store) : Prop where
  trainingData : ∀ samples, s.trainingData = some samples → DataFile samples
  classifier : ∀ forest, s.classifier = some forest → ∃ samples, DataFile samples ∧
    library.fit (samples.map fun sample => sample.risks.featureVector)
      (samples.map TrainingSample.label) = .ok forest

section Steps

variable {library : RandomForest} {s : Store}

theorem sound_empty : Store.empty.Sound library where
  trainingData _ h := by cases h
  classifier _ h := by cases h

theorem Store.Sound.generate (h : s.Sound library) (suite : Suite μ χ)
    (pthFiles onnxFiles : List Path) : (s.generate suite pthFiles onnxFiles).Sound library := by
  rw [Store.generate]
  split
  · exact h
  · exact h
  · next first rest hdata =>
      refine ⟨?_, h.classifier⟩
      intro samples hsamples
      cases hsamples
      refine ⟨List.cons_ne_nil _ _, ?_⟩
      intro sample hsample
      obtain ⟨path, -, haudit⟩ := (mem_generateTrainingData_iff hdata).1 hsample
      exact generated_of_auditModel haudit

theorem Store.Sound.train {trained : Store} (h : s.Sound library)
    (htrain : s.train library = .ok trained) : trained.Sound library := by
  rw [Store.train] at htrain
  split at htrain
  · cases htrain
    exact h
  · next samples hdata =>
      obtain ⟨⟨clf, forest⟩, hfit, hok⟩ := bind_eq_ok_iff.1 htrain
      obtain ⟨forest', hforest, hpair⟩ := bind_eq_ok_iff.1 hfit
      cases hpair
      cases hok
      refine ⟨h.trainingData, ?_⟩
      intro forest hstored
      cases hstored
      exact ⟨samples, h.trainingData samples hdata, hforest⟩

/-- Every run of the script keeps the files sound, also one that raises. -/
theorem Store.Sound.run (h : s.Sound library) (c : Command μ χ) :
    (c.run library s).Sound library := by
  have hgenerated : (if c.mode ≠ .train then s.generate c.suite c.pthFiles c.onnxFiles
      else s).Sound library := by
    split
    · exact h.generate c.suite c.pthFiles c.onnxFiles
    · exact h
  rw [Command.run]
  split
  · split
    · next htrain => exact hgenerated.train htrain
    · exact hgenerated
  · exact hgenerated

theorem Store.Sound.runAll (h : s.Sound library) (commands : List (Command μ χ)) :
    (runAll library s commands).Sound library := by
  induction commands generalizing s with
  | nil => exact h
  | cons c commands ih => exact ih (h.run c)

/-- A stored forest expects five features. -/
theorem Store.Sound.nFeaturesIn_eq (h : s.Sound library) {forest : FittedForest}
    (hstored : s.classifier = some forest) : forest.nFeaturesIn = 5 := by
  obtain ⟨samples, hfile, hfit⟩ := h.classifier forest hstored
  obtain ⟨sample, hsample⟩ := List.exists_mem_of_ne_nil _ hfile.ne_nil
  rw [← library.nFeaturesIn_fit _ _ forest hfit _ (List.mem_map_of_mem hsample)]
  rfl

/-- The worker never gets an answer from the stored forest. -/
theorem Store.Sound.weightedPath (h : s.Sound library) (t : Telemetry) :
    (workerEngine (loadIfExists s.classifier)).WeightedPath t := by
  intro clf hclf
  cases hstored : s.classifier with
  | none =>
      rw [hstored] at hclf
      cases hclf
  | some forest =>
      rw [hstored] at hclf
      cases hclf
      cases hpredict : (ofForest forest).predictRisk (features t) with
      | error e => exact ⟨e, hpredict⟩
      | ok p =>
          obtain ⟨hlength, -⟩ := predictRisk_ofForest_iff.1 ⟨p, hpredict⟩
          rw [length_features, h.nFeaturesIn_eq hstored] at hlength
          cases hlength

end Steps

/-! ## Scans -/

/-- On the weighted path the result does not depend on the classifier, up to the note in the details
whether it fell back. -/
theorem scan_of_weightedPath {clf : RiskMetaClassifier} {o : StageOutcomes}
    (hpath : (workerEngine clf).WeightedPath o.telemetry) (isOnnx : Bool)
    (featureLayerName : String) (requested : ℤ) :
    ∃ r r₀, scan clf isOnnx featureLayerName requested o = .ok r ∧
      scan untrainedClassifier isOnnx featureLayerName requested o = .ok r₀ ∧
      r.fusionRiskScore = r₀.fusionRiskScore ∧ r.forensicAnalysis = r₀.forensicAnalysis := by
  have hclf := (workerEngine clf).calculateUnifiedRisk_eq rfl defaultWeight_pos hpath
  have huntrained := (workerEngine untrainedClassifier).calculateUnifiedRisk_eq rfl
    defaultWeight_pos (weightedPath_untrained o.telemetry)
  exact ⟨_, _, bind_eq_ok_iff.2 ⟨_, hclf, rfl⟩, bind_eq_ok_iff.2 ⟨_, huntrained, rfl⟩, rfl, rfl⟩

/-- Whatever is audited and trained, in any order and number of runs of the script, the stored
vectors are separated by a threshold on their STRIP column, and every scan has the score and the
findings that it has without a trained classifier. -/
theorem training_never_changes_a_scan (library : RandomForest) (commands : List (Command μ χ)) :
    (∀ samples, (runAll library Store.empty commands).trainingData = some samples →
      ∀ sample ∈ samples, ∀ θ : ℚ, 5 / 100 ≤ θ → θ < 1 →
        (θ < sample.risks.stripRisk ↔ sample.label = 1)) ∧
    ∀ (isOnnx : Bool) (featureLayerName : String) (requested : ℤ) (o : StageOutcomes),
      ∃ r r₀, scan (loadIfExists (runAll library Store.empty commands).classifier) isOnnx
          featureLayerName requested o = .ok r ∧
        scan untrainedClassifier isOnnx featureLayerName requested o = .ok r₀ ∧
        r.fusionRiskScore = r₀.fusionRiskScore ∧ r.forensicAnalysis = r₀.forensicAnalysis := by
  have hsound : (runAll library Store.empty commands).Sound library := sound_empty.runAll commands
  constructor
  · intro samples hsamples sample hsample θ hlow hhigh
    exact ((hsound.trainingData samples hsamples).generated sample hsample).lt_stripRisk_iff
      hlow hhigh
  · intro isOnnx featureLayerName requested o
    exact scan_of_weightedPath (hsound.weightedPath o.telemetry) isOnnx featureLayerName requested

/-! ## A run that stores both files -/

/-- Every model loads, no detector finds anything, and the test images are of class one: an audit
returns only if there are none of class zero. -/
def quietSuite : Suite Unit ℚ where
  loadResnet18 _ := .ok ()
  loadObject _ := .ok ()
  wrap model := .ok model
  cifarLoader := [[⟨0, 1, none⟩]]
  trojaiLoader _ := .ok []
  neuralCleanse _ _ _ := .ok []
  layer _ input := .ok [input]
  weightAnalysis _ := .ok []
  profileShortcuts _ _ := .ok 0
  tools := Activations.SpectralSignatures.sortingTools

/-- The script on a directory with a clean and a poisoned model. -/
def auditAndTrain : Command Unit ℚ where
  mode := .both
  suite := quietSuite
  pthFiles := ["models/clean.pth".toList, "models/poisoned.pth".toList]
  onnxFiles := []

/-- What the audits report of the two. -/
def twoVectors : TrainingSet where
  samples := [⟨⟨0, 5 / 100, 0, 0, 0⟩, 0⟩, ⟨⟨0, 1, 0, 0, 0⟩, 1⟩]
  clean := List.mem_cons_self
  poisoned := List.mem_cons_of_mem _ List.mem_cons_self

theorem run_auditAndTrain (library : RandomForest) :
    ∃ forest, runAll library Store.empty [auditAndTrain] = ⟨some twoVectors.samples, some forest⟩ := by
  -- which forest is fitted is up to the library; only that fitting returns is used
  obtain ⟨forest, hfit, -⟩ := train_returns library twoVectors
  have hdata : Store.empty.generate quietSuite auditAndTrain.pthFiles auditAndTrain.onnxFiles =
      ⟨some twoVectors.samples, none⟩ := by
    have hvectors : quietSuite.generateTrainingData auditAndTrain.pthFiles auditAndTrain.onnxFiles =
        some twoVectors.samples := by
      decide +kernel
    rw [Store.generate, hvectors]
    rfl
  have htrain : Store.train ⟨some twoVectors.samples, none⟩ library =
      .ok ⟨some twoVectors.samples, some forest⟩ := by
    simp only [Store.train, hfit, bind, Except.bind]
  refine ⟨forest, ?_⟩
  show auditAndTrain.run library Store.empty = _
  have hmode : auditAndTrain.mode = .both := rfl
  have hsuite : auditAndTrain.suite = quietSuite := rfl
  simp only [Command.run, hmode, hsuite, hdata, htrain, ne_eq, reduceCtorEq, not_false_eq_true,
    if_true]

/-- One run stores a vector for each of the two models and a forest, the vectors are told apart by
their STRIP column, and the scans stay as they were. -/
theorem auditAndTrain_stores_both :
    ∃ forest, runAll uniformForest Store.empty [auditAndTrain] =
        ⟨some twoVectors.samples, some forest⟩ ∧
      (∀ sample ∈ twoVectors.samples, 1 / 2 < sample.risks.stripRisk ↔ sample.label = 1) ∧
      ∃ r r₀, scan (loadIfExists (some forest)) false "model.avgpool" (-1) quietOutcomes = .ok r ∧
        scan untrainedClassifier false "model.avgpool" (-1) quietOutcomes = .ok r₀ ∧
        r.fusionRiskScore = r₀.fusionRiskScore := by
  obtain ⟨forest, hrun⟩ := run_auditAndTrain uniformForest
  obtain ⟨hseparated, hscans⟩ := training_never_changes_a_scan uniformForest [auditAndTrain]
  rw [hrun] at hseparated hscans
  obtain ⟨r, r₀, hr, hr₀, hscore, -⟩ := hscans false "model.avgpool" (-1) quietOutcomes
  refine ⟨forest, hrun, ?_, r, r₀, hr, hr₀, hscore⟩
  intro sample hsample
  exact hseparated _ rfl sample hsample (1 / 2) (by norm_num) (by norm_num)

end TrojanDetection.Training.Pipeline
